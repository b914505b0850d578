/-!
JSON values. A number that is not whole is its text, as whoever makes the value prints it. The
members of an object stand in the order in which they are written; `ofMembers` orders them by name
and keeps the last of equal names.
-/

set_option autoImplicit false
set_option relaxedAutoImplicit false

namespace TransportSeams

namespace Json

def opensNumber (c : Char) : Bool :=
  c = '-' || c.isDigit

def isFractional (c : Char) : Bool :=
  c = '.' || c = 'e' || c = 'E'

def isNumeral (c : Char) : Bool :=
  c.isDigit || c = '-' || c = '+' || isFractional c

/-- The text of a number has a point or an exponent. -/
def isDecimal (text : List Char) : Bool :=
  text.head?.any opensNumber && text.all isNumeral && text.any isFractional

structure Decimal where
  text : List Char
  isDecimal : isDecimal text = true

end Json

inductive Json where
  | null
  | bool (value : Bool)
  | number (value : Int)
  | decimal (value : Json.Decimal)
  | string (text : String)
  | array (items : List Json)
  | object (members : List (String × Json))
deriving Inhabited

namespace Json

def insertMember (name : String) (value : Json) : List (String × Json) → List (String × Json)
  | [] => [(name, value)]
  | (other, held) :: rest =>
    if name < other then (name, value) :: (other, held) :: rest
    else if name = other then (name, value) :: rest
    else (other, held) :: insertMember name value rest

def ofMembers (members : List (String × Json)) : Json :=
  .object (members.foldl (fun kept member => insertMember member.1 member.2 kept) [])

def nat (value : Nat) : Json :=
  .number value

def strings (texts : List String) : Json :=
  .array (texts.map .string)

end Json

end TransportSeams
