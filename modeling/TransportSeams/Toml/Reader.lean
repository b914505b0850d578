/-!
Readers take a value from the start of a text and leave the rest, or refuse. A choice goes back to
where it started. `many` bounds its repetitions by the length of the text, which every repetition
shortens.
-/

set_option autoImplicit false
set_option relaxedAutoImplicit false

namespace TransportSeams.Toml

abbrev Reader : Type → Type :=
  StateT (List Char) Option

namespace Reader

variable {α β : Type}

def char (accepts : Char → Bool) : Reader Char := do
  match ← get with
  | c :: rest =>
    if accepts c then
      set rest
      return c
    else failure
  | [] => failure

def literal (expected : Char) : Reader Unit := do
  let _ ← char (· = expected)

def literals (expected : List Char) : Reader Unit :=
  expected.forM literal

/-- All characters up to the first that is not accepted. -/
def takeAll (accepts : Char → Bool) : Reader (List Char) :=
  modifyGet fun text => (text.takeWhile accepts, text.dropWhile accepts)

def takeSome (accepts : Char → Bool) : Reader (List Char) := do
  let found ← takeAll accepts
  guard (found ≠ [])
  return found

/-- As many characters as `count` says. -/
def exactly (accepts : Char → Bool) : Nat → Reader (List Char)
  | 0 => return []
  | count + 1 => do
    let first ← char accepts
    return first :: (← exactly accepts count)

def finish : Reader Unit := do
  guard (← get).isEmpty

def optional (reader : Reader α) : Reader (Option α) :=
  (some <$> reader) <|> pure none

def manyUpTo (item : Reader α) : Nat → Reader (List α)
  | 0 => pure []
  | bound + 1 =>
    (do
      let first ← item
      return first :: (← manyUpTo item bound)) <|> pure []

/-- As many items as there are. -/
def many (item : Reader α) : Reader (List α) := do
  manyUpTo item (← get).length

/-- One or more items with a separator between any two. -/
def separated (item : Reader α) (separator : Reader β) : Reader (List α) := do
  let first ← item
  return first :: (← many (separator *> item))

/-- The text that a reader takes. -/
def taken (reader : Reader α) : Reader String := do
  let before ← get
  let _ ← reader
  let after ← get
  return String.ofList (before.take (before.length - after.length))

/-- What a reader makes of a whole text. -/
def readAll? (reader : Reader α) (text : String) : Option α :=
  ((reader <* finish).run text.toList).map Prod.fst

end Reader

end TransportSeams.Toml
