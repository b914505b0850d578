import TransportSeams.Toml.Reader

/-!
What stands between the parts of a document: blanks, line ends and comments. A line ends in a line
feed, with or without a carriage return before it.
-/

set_option autoImplicit false
set_option relaxedAutoImplicit false

namespace TransportSeams.Toml

namespace Reader

def isSpace (c : Char) : Bool :=
  c = ' ' || c = '\t'

/-- Characters that may stand as they are: no control characters but the tab. -/
def isPlain (c : Char) : Bool :=
  c = '\t' || (0x20 ≤ c.toNat && c.toNat ≠ 0x7f)

def spaces : Reader Unit := do
  let _ ← takeAll isSpace

def newline : Reader Unit :=
  literal '\n' <|> literals ['\r', '\n']

def comment : Reader Unit := do
  literal '#'
  let _ ← takeAll isPlain

/-- The end of a line, or of the text. -/
def lineEnd : Reader Unit :=
  newline <|> finish

/-- What may follow on the same line. -/
def trailer : Reader Unit := do
  spaces
  let _ ← optional comment
  lineEnd

/-- Blanks, and ends of lines with or without a comment. -/
def gap : Reader Unit := do
  let _ ← many <|
    (do
      let _ ← takeSome isSpace) <|>
    (do
      let _ ← optional comment
      newline)

end Reader

end TransportSeams.Toml
