import TransportSeams.Event
import TransportSeams.Json.Writer

/-!
Lines of a run log. A payload whose text is longer than the limit is replaced by a string: the start
of the text and three dots. The cut is looked for in the bytes of the text, from where the dots
would still fit back to the next place that is not inside a character.
-/

set_option autoImplicit false
set_option relaxedAutoImplicit false

namespace TransportSeams

structure LogRecord where
  level : String
  name : String
  payload : Json

def Event.record (event : Event) : LogRecord :=
  ⟨event.level, event.name, event.payload⟩

namespace Text

def byteSize (text : List Char) : Nat :=
  text.foldr (fun c size => c.utf8Size + size) 0

/-- The UTF-8 bytes of a text. -/
def bytes (text : List Char) : List UInt8 :=
  text.flatMap String.utf8EncodeChar

/-- A byte that goes on with a character. -/
def isContinuation (byte : UInt8) : Bool :=
  0x80 ≤ byte && byte < 0xC0

/-- Whether bytes can be cut at an offset: it lies within them and not inside a character. -/
def isBoundary (bytes : List UInt8) (offset : Nat) : Bool :=
  offset = 0 || match bytes[offset]? with
    | some byte => !isContinuation byte
    | none => offset = bytes.length

/-- The longest start of a text that has at most `limit` bytes. -/
def takeBytes : Nat → List Char → List Char
  | _, [] => []
  | limit, c :: rest =>
    if c.utf8Size ≤ limit then c :: takeBytes (limit - c.utf8Size) rest else []

/-- A place where a text can be cut. -/
structure Cut (text : List Char) where
  offset : Nat
  isBoundary : isBoundary (bytes text) offset = true

namespace Cut

variable {text : List Char}

/-- Goes back from an offset to where the text can be cut. -/
def backFrom (text : List Char) : Nat → Cut text
  | 0 => ⟨0, rfl⟩
  | offset + 1 =>
    if boundary : Text.isBoundary (bytes text) (offset + 1) then ⟨offset + 1, boundary⟩
    else backFrom text offset

/-- What stands before the cut. -/
def start (cut : Cut text) : List Char :=
  takeBytes cut.offset text

end Cut

/-- What stands in for a text of more than `limit` bytes. -/
def abridge (limit : Nat) (text : List Char) : List Char :=
  (Cut.backFrom text (limit - 3)).start ++ ['.', '.', '.']

end Text

/-- A value whose text has at most `limit` bytes, and else a string with the start of the text. -/
def Json.truncate (limit : Nat) (value : Json) : Json :=
  let text := value.write
  if Text.byteSize text ≤ limit then value else .string (String.ofList (Text.abridge limit text))

namespace LogRecord

def json (record : LogRecord) : Json :=
  .object
    [("level", .string record.level), ("event_type", .string record.name),
      ("payload", record.payload)]

def truncate (limit : Nat) (record : LogRecord) : LogRecord :=
  { record with payload := record.payload.truncate limit }

/-- The line of a record, without the line break. -/
def line (limit : Nat) (record : LogRecord) : String :=
  (record.truncate limit).json.render

end LogRecord

end TransportSeams
