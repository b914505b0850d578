import TransportSeams.Text.Hexadecimal
import TransportSeams.Toml.Layout

/-!
Strings. A string is basic or literal and stands on one line or on several; a basic string has
escapes, a literal one none.
-/

set_option autoImplicit false
set_option relaxedAutoImplicit false

namespace TransportSeams.Toml

namespace Reader

def hexDigits (count : Nat) : Reader Nat := do
  let digits ← exactly (Text.hexValue? · |>.isSome) count
  return digits.foldl (fun value c => 16 * value + (Text.hexValue? c).getD 0) 0

/-- The character with a code point, if there is one. -/
def codePoint (count : Nat) : Reader Char := do
  let code ← hexDigits count
  guard code.isValidChar
  return Char.ofNat code

def escapedChar : Reader Char := do
  literal '\\'
  match ← char fun _ => true with
  | 'b' => return '\x08'
  | 't' => return '\t'
  | 'n' => return '\n'
  | 'f' => return '\x0c'
  | 'r' => return '\r'
  | '"' => return '"'
  | '\\' => return '\\'
  | 'u' => codePoint 4
  | 'U' => codePoint 8
  | _ => failure

/-- A backslash at the end of a line, with all blanks and line ends up to the next text. -/
def joinedLines : Reader Unit := do
  literal '\\'
  spaces
  newline
  let _ ← many ((do
    let _ ← char isSpace) <|> newline)

def basicChars : Reader (List Char) :=
  takeSome (fun c => isPlain c && c ≠ '"' && c ≠ '\\') <|> (do
    return [← escapedChar])

def literalChars : Reader (List Char) :=
  takeSome fun c => isPlain c && c ≠ '\''

/-- One or two quotes that do not belong to a closing run. -/
def innerQuotes (quote : Char) : Reader (List Char) := do
  let quotes ← takeSome (· = quote)
  guard (quotes.length < 3)
  return quotes

/-- A closing run of quotes: three that close, after up to two that belong to the text. -/
def closingQuotes (quote : Char) : Reader (List Char) := do
  let quotes ← takeAll (· = quote)
  guard (3 ≤ quotes.length ∧ quotes.length ≤ 5)
  return quotes.drop 3

def singleLine (quote : Char) (chars : Reader (List Char)) : Reader String := do
  literal quote
  let body ← many chars
  literal quote
  return String.ofList body.flatten

/-- A line end right after the opening quotes is no part of the text; any other is a line feed. -/
def multiLine (quote : Char) (chars : Reader (List Char)) : Reader String := do
  literals [quote, quote, quote]
  let _ ← optional newline
  let body ← many <|
    innerQuotes quote <|> chars <|> (do
      newline
      return ['\n'])
  let tail ← closingQuotes quote
  return String.ofList (body.flatten ++ tail)

def multiLineBasicChars : Reader (List Char) :=
  (do
    joinedLines
    return []) <|> basicChars

def basicString : Reader String :=
  singleLine '"' basicChars

def literalString : Reader String :=
  singleLine '\'' literalChars

def string : Reader String :=
  multiLine '"' multiLineBasicChars <|> basicString <|>
    multiLine '\'' literalChars <|> literalString

end Reader

end TransportSeams.Toml
