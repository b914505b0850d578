/-!
Lower-case hexadecimal digits: `hexByte` writes two digits for a byte, `hexNumber` the fewest digits
of a number.
-/

set_option autoImplicit false
set_option relaxedAutoImplicit false

namespace TransportSeams.Text

def hexDigit (value : Nat) : Char :=
  if value < 10 then Char.ofNat ('0'.toNat + value) else Char.ofNat ('a'.toNat + (value - 10))

def hexByte (byte : UInt8) : List Char :=
  [hexDigit (byte.toNat / 16), hexDigit (byte.toNat % 16)]

def hexBytes (bytes : List UInt8) : String :=
  String.ofList (bytes.flatMap hexByte)

def hexNumber (value : Nat) : List Char :=
  Nat.toDigits 16 value

/-- The value of a hexadecimal digit of either case. -/
def hexValue? (c : Char) : Option Nat :=
  if '0' ≤ c ∧ c ≤ '9' then some (c.toNat - '0'.toNat)
  else if 'a' ≤ c ∧ c ≤ 'f' then some (c.toNat - 'a'.toNat + 10)
  else if 'A' ≤ c ∧ c ≤ 'F' then some (c.toNat - 'A'.toNat + 10)
  else none

end TransportSeams.Text
