/-!
Configuration documents as values. Floating-point numbers and moments in time keep their text. A
table remembers how it came to be, because that decides whether it may still grow.
-/

set_option autoImplicit false
set_option relaxedAutoImplicit false

namespace TransportSeams.Toml

inductive TableForm where
  /-- By a header of its own; also the document and the elements of an array of tables. -/
  | explicit
  /-- By the header of a table inside it. -/
  | implied
  /-- By a dotted key. -/
  | dotted
deriving DecidableEq, Repr

inductive Value where
  | string (text : String)
  | integer (value : Int)
  | float (text : String)
  | boolean (value : Bool)
  | moment (text : String)
  | array (items : List Value)
  | inline (entries : List (String × Value))
  | table (form : TableForm) (entries : List (String × Value))
  /-- An array of tables; the last one is the one that may grow. -/
  | tables (earlier : List (List (String × Value))) (last : List (String × Value))

abbrev Entries : Type :=
  List (String × Value)

/-- A line of a document. A path is a dotted key. -/
inductive Line where
  | blank
  | table (path : List String)
  | element (path : List String)
  | entry (path : List String) (value : Value)

end TransportSeams.Toml
