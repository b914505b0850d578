/-!
Unsigned decimal numerals. `decimal? digits` reads a non-empty run of ASCII digits; leading zeros
are allowed, and a sign, a blank or any other character is not.
-/

set_option autoImplicit false
set_option relaxedAutoImplicit false

namespace TransportSeams.Text

def isDigit (c : Char) : Bool :=
  '0' ≤ c && c ≤ '9'

def digitValue (c : Char) : Nat :=
  c.toNat - '0'.toNat

def decimalValue (digits : List Char) : Nat :=
  digits.foldl (fun value c => 10 * value + digitValue c) 0

def decimal? (digits : List Char) : Option Nat :=
  if digits ≠ [] ∧ digits.all isDigit = true then some (decimalValue digits) else none

end TransportSeams.Text
