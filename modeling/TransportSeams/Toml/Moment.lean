import TransportSeams.Text.Decimal
import TransportSeams.Toml.Reader

/-!
Moments in time: a date of the calendar, a time of the day, or both with or without an offset from
universal time. A minute may have a leap second.
-/

set_option autoImplicit false
set_option relaxedAutoImplicit false

namespace TransportSeams.Toml

namespace Reader

/-- A number with a fixed count of digits, between two bounds. -/
def fixedNumber (count low high : Nat) : Reader Nat := do
  let value := Text.decimalValue (← exactly Text.isDigit count)
  guard (low ≤ value ∧ value ≤ high)
  return value

def isLeapYear (year : Nat) : Bool :=
  year % 4 = 0 && (year % 100 ≠ 0 || year % 400 = 0)

def monthLength (year month : Nat) : Nat :=
  if month = 2 then (if isLeapYear year then 29 else 28)
  else if month = 4 ∨ month = 6 ∨ month = 9 ∨ month = 11 then 30
  else 31

def date : Reader Unit := do
  let year ← fixedNumber 4 0 9999
  literal '-'
  let month ← fixedNumber 2 1 12
  literal '-'
  let _ ← fixedNumber 2 1 (monthLength year month)

def hourAndMinute : Reader Unit := do
  let _ ← fixedNumber 2 0 23
  literal ':'
  let _ ← fixedNumber 2 0 59

def time : Reader Unit := do
  hourAndMinute
  literal ':'
  let _ ← fixedNumber 2 0 60
  let _ ← optional (literal '.' *> takeSome Text.isDigit)

def offset : Reader Unit :=
  (do
    let _ ← char fun c => c = 'Z' || c = 'z') <|> (do
    let _ ← char fun c => c = '+' || c = '-'
    hourAndMinute)

/-- The part of a moment after its date. -/
def timeOfDate : Reader Unit := do
  let _ ← char fun c => c = 'T' || c = 't' || c = ' '
  time
  let _ ← optional offset

def moment : Reader String :=
  taken <|
    (do
      date
      let _ ← optional timeOfDate) <|> time

end Reader

end TransportSeams.Toml
