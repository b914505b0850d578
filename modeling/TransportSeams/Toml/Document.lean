import TransportSeams.Toml.Key
import TransportSeams.Toml.Moment
import TransportSeams.Toml.Number
import TransportSeams.Toml.Table

/-!
Documents. A document is a list of lines: headers, entries, and lines with nothing but a comment.
`Entries.ofText?` reads one and puts its tables together.
-/

set_option autoImplicit false
set_option relaxedAutoImplicit false

namespace TransportSeams.Toml

namespace Reader

def boolean : Reader Bool :=
  (do
    literals ['t', 'r', 'u', 'e']
    return true) <|> (do
    literals ['f', 'a', 'l', 's', 'e']
    return false)

def scalar : Reader Value :=
  Value.string <$> string <|> Value.moment <$> moment <|> Value.float <$> float <|>
    Value.integer <$> integer <|> Value.boolean <$> boolean

/-- An array may have line ends and comments anywhere, and a comma after its last item. -/
def array (item : Reader Value) : Reader (List Value) := do
  literal '['
  let items? ← optional (separated (gap *> item <* gap) (literal ','))
  if items?.isSome then
    let _ ← optional (literal ',')
  gap
  literal ']'
  return items?.getD []

/-- A key, an equals sign and a value. -/
def assignment (item : Reader Value) : Reader (List String × Value) := do
  let path ← key
  literal '='
  spaces
  return (path, ← item)

/-- An inline table stands on one line and has no comma after its last entry. -/
def inlineTable (item : Reader Value) : Reader Entries := do
  literal '\x7b'
  let pairs? ← optional (separated (assignment item <* spaces) (literal ','))
  spaces
  literal '\x7d'
  liftM (Entries.ofPairs? (pairs?.getD []))

/-- A value with at most so many arrays and inline tables around anything in it. -/
def value : Nat → Reader Value
  | 0 => scalar
  | depth + 1 =>
    Value.array <$> array (value depth) <|> Value.inline <$> inlineTable (value depth) <|> scalar

def header : Reader Line :=
  (do
    literals ['[', '[']
    let path ← key
    literals [']', ']']
    trailer
    return .element path) <|> (do
    literal '['
    let path ← key
    literal ']'
    trailer
    return .table path)

def entry : Reader Line := do
  let (path, held) ← assignment (value depthLimit)
  trailer
  return .entry path held

def line : Reader Line :=
  (do
    comment
    lineEnd
    return .blank) <|> (do
    newline
    return .blank) <|> header <|> entry

/-- The lines of a document, which may start with a byte order mark. -/
def lines : Reader (List Line) := do
  let _ ← optional (literal '\ufeff')
  spaces
  many (line <* spaces)

end Reader

/-- The entries of a document, unless it is malformed or defines something twice. -/
def Entries.ofText? (text : String) : Option Entries :=
  (Reader.lines.readAll? text).bind Entries.ofLines?

end TransportSeams.Toml
