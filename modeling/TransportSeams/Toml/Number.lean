import TransportSeams.Text.Decimal
import TransportSeams.Text.Hexadecimal
import TransportSeams.Toml.Reader

/-!
Numbers. Integers have 64 bits with a sign; in the other bases they have none. Underscores may stand
between digits. A positive float that is too large for its 64 bits is refused.
-/

set_option autoImplicit false
set_option relaxedAutoImplicit false

namespace TransportSeams.Toml

namespace Reader

/-- Digits, with single underscores between them. -/
def digits (accepts : Char → Bool) : Reader (List Char) := do
  let first ← takeSome accepts
  let others ← many (literal '_' *> takeSome accepts)
  return first ++ others.flatten

/-- Decimal digits without a zero in front of others. -/
def wholeDigits : Reader (List Char) :=
  (do
    return [← char (· = '0')]) <|> digits Text.isDigit

/-- Whether there is a minus. -/
def sign : Reader Bool :=
  (do
    literal '-'
    return true) <|> (do
    literal '+'
    return false) <|> pure false

def inRange (value : Int) : Reader Int := do
  guard (-(Int.pow 2 63) ≤ value ∧ value < Int.pow 2 63)
  return value

def decimalInteger : Reader Int := do
  let negative ← sign
  let magnitude : Int := Text.decimalValue (← wholeDigits)
  inRange (if negative then -magnitude else magnitude)

/-- An integer in base `base`, whose digits are the hexadecimal ones below it. -/
def basedInteger (mark : Char) (base : Nat) : Reader Int := do
  literals ['0', mark]
  let found ← digits fun c => (Text.hexValue? c).any (· < base)
  inRange (found.foldl (fun value c => base * value + (Text.hexValue? c).getD 0) 0 : Nat)

def integer : Reader Int :=
  basedInteger 'x' 16 <|> basedInteger 'o' 8 <|> basedInteger 'b' 2 <|> decimalInteger

/-- The least number that is rounded to infinity. -/
def floatBound : Nat :=
  Nat.pow 2 1024 - Nat.pow 2 970

/-- The number of digits of `floatBound`. -/
def floatBoundSize : Nat :=
  309

/-- Whether `mantissa * 10 ^ exponent` is rounded to infinity. A whole part with fewer or more
digits than the bound settles it without a comparison. -/
def isInfinite (mantissa : List Char) (exponent : Int) : Bool :=
  let significant := mantissa.dropWhile (· = '0')
  let size := significant.length + exponent
  if significant = [] ∨ size < floatBoundSize then false
  else if size > floatBoundSize then true
  else if exponent < 0 then floatBound * Nat.pow 10 exponent.natAbs ≤ Text.decimalValue significant
  else floatBound ≤ Text.decimalValue significant * Nat.pow 10 exponent.toNat

def fraction : Reader (List Char) :=
  literal '.' *> digits Text.isDigit

def exponent : Reader Int := do
  let _ ← char fun c => c = 'e' || c = 'E'
  let negative ← sign
  let magnitude : Int := Text.decimalValue (← digits Text.isDigit)
  return if negative then -magnitude else magnitude

/-- A float has a fraction, an exponent, or both. -/
def decimalFloat : Reader Unit := do
  let negative ← sign
  let whole ← wholeDigits
  let places? ← optional fraction
  let power? ← optional exponent
  guard (places?.isSome ∨ power?.isSome)
  let places := places?.getD []
  guard (negative ∨ ¬isInfinite (whole ++ places) (power?.getD 0 - places.length))

def specialFloat : Reader Unit := do
  let _ ← sign
  literals ['i', 'n', 'f'] <|> literals ['n', 'a', 'n']

def float : Reader String :=
  taken (decimalFloat <|> specialFloat)

end Reader

end TransportSeams.Toml
