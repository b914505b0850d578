import TransportSeams.Toml.Quoted

/-!
Keys: bare words and strings of one line, joined by dots.
-/

set_option autoImplicit false
set_option relaxedAutoImplicit false

namespace TransportSeams.Toml

namespace Reader

def isBareKeyChar (c : Char) : Bool :=
  c.isAlphanum || c = '-' || c = '_'

def simpleKey : Reader String :=
  basicString <|> literalString <|> String.ofList <$> takeSome isBareKeyChar

/-- The number of parts that a dotted key may have, and the depth to which values may nest. -/
def depthLimit : Nat :=
  79

/-- A dotted key, with blanks around its parts. -/
def key : Reader (List String) := do
  let path ← separated (spaces *> simpleKey <* spaces) (literal '.')
  guard (path.length ≤ depthLimit)
  return path

end Reader

end TransportSeams.Toml
