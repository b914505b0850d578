import Mathlib.Data.Nat.Digits.Lemmas
import TransportSeams.Proofs.Json.Writing

/-!
Reading JSON text. A reader for the texts of values allows blanks between the parts, every escape
of a string, and pairs of surrogates, and keeps the text of a number that is not whole. What is
written for a value is read back as that value, so two values have the same text only when they are
the same.
-/

set_option autoImplicit false
set_option relaxedAutoImplicit false

namespace TransportSeams

namespace Json

def isBlank (c : Char) : Bool :=
  c = ' ' || c = '\t' || c = '\n' || c = '\r'

def after? (mark : Char) (text : List Char) : Option (List Char) :=
  match text.dropWhile isBlank with
  | c :: rest => if c = mark then some rest else none
  | [] => none

def readCode : List Char → Option (Nat × List Char)
  | a :: b :: c :: d :: rest => do
    let a ← Text.hexValue? a
    let b ← Text.hexValue? b
    let c ← Text.hexValue? c
    let d ← Text.hexValue? d
    return (((a * 16 + b) * 16 + c) * 16 + d, rest)
  | _ => none

/-- The character with a code; two surrogates stand for one character beyond four digits. -/
def readUnicode (text : List Char) : Option (Char × List Char) := do
  let (high, rest) ← readCode text
  if high < 0xD800 ∨ 0xE000 ≤ high then return (Char.ofNat high, rest)
  else
    match rest with
    | '\\' :: 'u' :: rest => do
      let (low, rest) ← readCode rest
      guard (high < 0xDC00 ∧ 0xDC00 ≤ low ∧ low < 0xE000)
      return (Char.ofNat (0x10000 + (high - 0xD800) * 0x400 + (low - 0xDC00)), rest)
    | _ => none

def escapes : List (Char × Char) :=
  ('/', '/') :: shortEscapes

def readEscape : List Char → Option (Char × List Char)
  | [] => none
  | letter :: rest =>
    if letter = 'u' then readUnicode rest else (escapes.lookup letter).map (·, rest)

def readChar : List Char → Option (Char × List Char)
  | [] => none
  | c :: rest =>
    if c = '\\' then readEscape rest
    else if c = '"' ∨ c.toNat < 0x20 then none
    else some (c, rest)

def readChars : Nat → List Char → Option (List Char × List Char)
  | 0, _ => none
  | fuel + 1, text =>
    if text.head? = some '"' then some ([], text.tail)
    else do
      let (c, rest) ← readChar text
      let (others, rest) ← readChars fuel rest
      return (c :: others, rest)

def readString (text : List Char) : Option (String × List Char) := do
  let rest ← after? '"' text
  let (chars, rest) ← readChars rest.length rest
  return (String.ofList chars, rest)

def readNatural (text : List Char) : Option (Nat × List Char) :=
  let digits := text.takeWhile Char.isDigit
  if digits = [] ∨ digits.head? = some '0' ∧ digits ≠ ['0'] then none
  else some (Nat.ofDigitChars 10 digits 0, text.dropWhile Char.isDigit)

def readInteger : List Char → Option (Int × List Char)
  | '-' :: rest => (readNatural rest).map fun (value, rest) => (-(value : Int), rest)
  | text => (readNatural text).map fun (value, rest) => ((value : Int), rest)

def readNumber (text : List Char) : Option (Json × List Char) :=
  let numeral := text.takeWhile isNumeral
  if decimal : isDecimal numeral = true then
    some (.decimal ⟨numeral, decimal⟩, text.dropWhile isNumeral)
  else (readInteger text).map fun (value, rest) => (.number value, rest)

def readScalar (text : List Char) : Option (Json × List Char) :=
  match text.dropWhile isBlank with
  | 'n' :: 'u' :: 'l' :: 'l' :: rest => some (.null, rest)
  | 't' :: 'r' :: 'u' :: 'e' :: rest => some (.bool true, rest)
  | 'f' :: 'a' :: 'l' :: 's' :: 'e' :: rest => some (.bool false, rest)
  | '"' :: rest => (readString ('"' :: rest)).map fun (text, rest) => (.string text, rest)
  | text => readNumber text

mutual

def readValue : Nat → List Char → Option (Json × List Char)
  | 0, _ => none
  | fuel + 1, text =>
    match after? '[' text, after? '\x7b' text with
    | some rest, _ =>
      match after? ']' rest with
      | some rest => some (.array [], rest)
      | none => (readItems fuel rest).map fun (items, rest) => (.array items, rest)
    | none, some rest =>
      match after? '\x7d' rest with
      | some rest => some (.object [], rest)
      | none => (readMembers fuel rest).map fun (members, rest) => (.object members, rest)
    | none, none => readScalar text

def readItems : Nat → List Char → Option (List Json × List Char)
  | 0, _ => none
  | fuel + 1, text => do
    let (item, rest) ← readValue fuel text
    match after? ',' rest, after? ']' rest with
    | some rest, _ =>
      let (items, rest) ← readItems fuel rest
      return (item :: items, rest)
    | none, some rest => return ([item], rest)
    | none, none => none

def readMembers : Nat → List Char → Option (List (String × Json) × List Char)
  | 0, _ => none
  | fuel + 1, text => do
    let (name, rest) ← readString text
    let rest ← after? ':' rest
    let (value, rest) ← readValue fuel rest
    match after? ',' rest, after? '\x7d' rest with
    | some rest, _ =>
      let (members, rest) ← readMembers fuel rest
      return ((name, value) :: members, rest)
    | none, some rest => return ([(name, value)], rest)
    | none, none => none

end

/-- The value of a whole text. -/
def read? (text : String) : Option Json := do
  let (value, rest) ← readValue text.toList.length text.toList
  guard (rest.dropWhile isBlank = [])
  return value

variable {mark c : Char} {rest : List Char}

/-- What a number can be followed by. -/
def IsApart (rest : List Char) : Prop :=
  ∀ c ∈ rest.head?, isNumeral c = false

theorem span_of_isApart {text rest : List Char} {p : Char → Bool} (all : ∀ c ∈ text, p c = true)
    (numerals : ∀ c, p c = true → isNumeral c = true) (apart : IsApart rest) :
    (text ++ rest).takeWhile p = text ∧ (text ++ rest).dropWhile p = rest := by
  have parted : rest.takeWhile p = [] ∧ rest.dropWhile p = rest := by
    cases rest with
    | nil => exact ⟨rfl, rfl⟩
    | cons c rest =>
      have other : ¬p c = true := fun numeral =>
        Bool.false_ne_true ((apart c rfl).symm.trans (numerals c numeral))
      exact ⟨List.takeWhile_cons_of_neg other, List.dropWhile_cons_of_neg other⟩
  rw [List.takeWhile_append_of_pos all, List.dropWhile_append_of_pos all, parted.1, parted.2,
    List.append_nil]
  exact ⟨rfl, rfl⟩

theorem isNumeral_of_isDigit {c : Char} (digit : c.isDigit = true) : isNumeral c = true := by
  rw [isNumeral, digit]
  rfl

theorem after?_same (solid : isBlank mark = false) (rest : List Char) :
    after? mark (mark :: rest) = some rest := by
  rw [after?, List.dropWhile_cons_of_neg (by simp [solid])]
  exact if_pos rfl

theorem after?_other (solid : isBlank c = false) (other : c ≠ mark) (rest : List Char) :
    after? mark (c :: rest) = none := by
  rw [after?, List.dropWhile_cons_of_neg (by simp [solid])]
  exact if_neg other

theorem readCode_hexDigit {high low : Nat} (highSmall : high < 16) (lowSmall : low < 16)
    (rest : List Char) :
    readCode ('0' :: '0' :: Text.hexDigit high :: Text.hexDigit low :: rest) =
      some (high * 16 + low, rest) := by
  have digit : ∀ value < 16, Text.hexValue? (Text.hexDigit value) = some value := by decide
  have zero : Text.hexValue? '0' = some 0 := by decide
  simp only [readCode, digit high highSmall, digit low lowSmall, zero]
  simp

theorem readChar_escapedChar (c : Char) (rest : List Char) :
    readChar (escapedChar c ++ rest) = some (c, rest) := by
  have named : ∀ entry ∈ shortEscapes, entry.1 ≠ 'u' ∧ escapes.lookup entry.1 = some entry.2 := by
    decide
  rcases escapedChar_cases c with ⟨letter, listed, written⟩ | ⟨control, written⟩ |
    ⟨shown, plain, written⟩
  · obtain ⟨notCode, found⟩ := named _ listed
    rw [written]
    show readEscape (letter :: rest) = _
    rw [readEscape, if_neg notCode, found]
    rfl
  · rw [written]
    show readUnicode ('0' :: '0' :: Text.hexDigit _ :: Text.hexDigit _ :: rest) = _
    rw [readUnicode, readCode_hexDigit (by omega) (by omega)]
    have code : c.toNat / 16 * 16 + c.toNat % 16 = c.toNat := by omega
    have low : c.toNat < 0xD800 := by omega
    simp [code, low, Char.ofNat_toNat]
  · rw [written]
    have notMark : c ≠ '"' ∧ c ≠ '\\' := by simpa [Text.isMark] using plain
    show readChar (c :: rest) = _
    rw [readChar, if_neg notMark.2, if_neg (not_or.2 ⟨notMark.1, by omega⟩)]

theorem exists_escapedChar_cons (c : Char) :
    ∃ first others, escapedChar c = first :: others ∧ first ≠ '"' := by
  rcases escapedChar_cases c with ⟨letter, -, written⟩ | ⟨-, written⟩ | ⟨-, plain, written⟩
  · exact ⟨_, _, written, by decide⟩
  · exact ⟨_, _, written, by decide⟩
  · refine ⟨_, _, written, ?_⟩
    rintro rfl
    exact absurd plain (by decide)

theorem length_le_flatMap_escapedChar (chars : List Char) :
    chars.length ≤ (chars.flatMap escapedChar).length := by
  induction chars with
  | nil => exact Nat.le_refl 0
  | cons c others ih =>
    obtain ⟨first, tail, written, -⟩ := exists_escapedChar_cons c
    rw [List.flatMap_cons, List.length_append, written, List.length_cons, List.length_cons]
    omega

theorem readChars_write (chars rest : List Char) {fuel : Nat} (enough : chars.length < fuel) :
    readChars fuel (chars.flatMap escapedChar ++ '"' :: rest) = some (chars, rest) := by
  induction chars generalizing fuel with
  | nil =>
    obtain ⟨fuel, rfl⟩ := Nat.exists_eq_succ_of_ne_zero (Nat.ne_zero_of_lt enough)
    exact if_pos rfl
  | cons c others ih =>
    obtain ⟨fuel, rfl⟩ := Nat.exists_eq_succ_of_ne_zero (Nat.ne_zero_of_lt enough)
    obtain ⟨first, tail, written, notQuote⟩ := exists_escapedChar_cons c
    have opened :
        (escapedChar c ++ (others.flatMap escapedChar ++ '"' :: rest)).head? ≠ some '"' := by
      rw [written]
      exact fun same => notQuote (Option.some.inj same)
    rw [List.flatMap_cons, List.append_assoc, readChars, if_neg opened, readChar_escapedChar]
    simp [ih (Nat.lt_of_succ_lt_succ enough)]

theorem readString_write (text : String) (rest : List Char) :
    readString (writeString text ++ rest) = some (text, rest) := by
  have enough : text.toList.length < (text.toList.flatMap escapedChar ++ '"' :: rest).length := by
    have longer := length_le_flatMap_escapedChar text.toList
    rw [List.length_append, List.length_cons]
    omega
  rw [readString, writeString, List.cons_append, List.append_assoc, List.singleton_append,
    after?_same (by decide)]
  simp only [Option.bind_eq_bind, Option.bind_some, readChars_write _ _ enough,
    String.ofList_toList]
  rfl

theorem head?_toDigits {value : Nat} (positive : 0 < value) :
    (Nat.toDigits 10 value).head? ≠ some '0' := by
  induction value using Nat.strongRecOn with
  | ind value ih =>
    rcases Nat.lt_or_ge value 10 with small | large
    · have nonzero : ∀ digit < 10, 0 < digit → digit.digitChar ≠ '0' := by decide
      rw [Nat.toDigits_of_lt_base small]
      exact fun same => nonzero value small positive (Option.some.inj same)
    · have front := ih (value / 10) (Nat.div_lt_self positive (by decide))
        (Nat.div_pos large (by decide))
      rw [Nat.toDigits_of_base_le (by decide) large, List.head?_append]
      cases first : (Nat.toDigits 10 (value / 10)).head? with
      | none => exact absurd (List.head?_eq_none_iff.1 first) Nat.toDigits_ne_nil
      | some c =>
        rw [first] at front
        exact front

theorem readNatural_write (value : Nat) {rest : List Char} (apart : IsApart rest) :
    readNatural (Nat.toDigits 10 value ++ rest) = some (value, rest) := by
  have digits : ∀ c ∈ Nat.toDigits 10 value, c.isDigit = true := fun c member =>
    Nat.isDigit_of_mem_toDigits (by decide) (le_refl 10) member
  obtain ⟨taken, dropped⟩ := span_of_isApart digits (fun _ => isNumeral_of_isDigit) apart
  have plain : ¬(Nat.toDigits 10 value = [] ∨
      (Nat.toDigits 10 value).head? = some '0' ∧ Nat.toDigits 10 value ≠ ['0']) := by
    rintro (none | ⟨zero, others⟩)
    · exact Nat.toDigits_ne_nil none
    · rcases Nat.eq_zero_or_pos value with rfl | positive
      · exact others rfl
      · exact head?_toDigits positive zero
  simp only [readNatural, taken, dropped]
  rw [if_neg plain, Nat.ofDigitChars_ten_toDigits]

theorem isBlank_of_opensNumber (opens : opensNumber c = true) : isBlank c = false := by
  refine Bool.eq_false_iff.2 fun blank => ?_
  simp only [isBlank, Bool.or_eq_true, decide_eq_true_eq] at blank
  rcases blank with ((rfl | rfl) | rfl) | rfl <;> exact absurd opens (by decide)

theorem exists_toDigits_cons (value : Nat) :
    ∃ c tail, Nat.toDigits 10 value = c :: tail ∧ c.isDigit = true := by
  obtain ⟨c, tail, written⟩ :=
    List.exists_cons_of_ne_nil (Nat.toDigits_ne_nil (b := 10) (n := value))
  have member : c ∈ Nat.toDigits 10 value := by
    rw [written]
    exact List.mem_cons_self
  exact ⟨c, tail, written, Nat.isDigit_of_mem_toDigits (by decide) (le_refl 10) member⟩

theorem exists_writeNumber_cons (value : Int) :
    ∃ c tail, writeNumber value = c :: tail ∧ opensNumber c = true := by
  unfold writeNumber
  split
  · exact ⟨_, _, rfl, rfl⟩
  · obtain ⟨c, tail, written, digit⟩ := exists_toDigits_cons value.natAbs
    exact ⟨c, tail, written, Bool.or_eq_true_iff.2 (.inr digit)⟩

theorem readInteger_write (value : Int) {rest : List Char} (apart : IsApart rest) :
    readInteger (writeNumber value ++ rest) = some (value, rest) := by
  unfold writeNumber
  split
  · rename_i negative
    show (readNatural (Nat.toDigits 10 value.natAbs ++ rest)).map _ = _
    have whole : -(value.natAbs : Int) = value := by omega
    rw [readNatural_write _ apart, Option.map_some]
    exact congrArg (fun number => some (number, rest)) whole
  · rename_i positive
    have digits := readNatural_write value.natAbs apart
    obtain ⟨c, tail, written, digit⟩ := exists_toDigits_cons value.natAbs
    rw [written, List.cons_append] at digits ⊢
    unfold readInteger
    split
    · rename_i same
      rw [(List.cons.inj same).1] at digit
      exact absurd digit (by decide)
    · have whole : (value.natAbs : Int) = value := by omega
      rw [digits, Option.map_some]
      exact congrArg (fun number => some (number, rest)) whole

theorem isDigit_or_dash_of_mem_writeNumber {value : Int} {c : Char}
    (member : c ∈ writeNumber value) : c.isDigit = true ∨ c = '-' := by
  have digits : c ∈ Nat.toDigits 10 value.natAbs → c.isDigit = true :=
    Nat.isDigit_of_mem_toDigits (by decide) (le_refl 10)
  unfold writeNumber at member
  split at member
  · exact (List.mem_cons.1 member).elim .inr fun member => .inl (digits member)
  · exact .inl (digits member)

theorem isDecimal_writeNumber (value : Int) : isDecimal (writeNumber value) = false := by
  have whole : (writeNumber value).any isFractional = false := by
    refine List.any_eq_false.2 fun c member fractional => ?_
    simp only [isFractional, Bool.or_eq_true, decide_eq_true_eq] at fractional
    have known := isDigit_or_dash_of_mem_writeNumber member
    rcases fractional with (rfl | rfl) | rfl <;> exact absurd known (by decide)
  rw [isDecimal, whole, Bool.and_false]

theorem readNumber_writeNumber (value : Int) {rest : List Char} (apart : IsApart rest) :
    readNumber (writeNumber value ++ rest) = some (.number value, rest) := by
  have numerals : ∀ c ∈ writeNumber value, isNumeral c = true := by
    intro c member
    rcases isDigit_or_dash_of_mem_writeNumber member with digit | rfl
    · exact isNumeral_of_isDigit digit
    · rfl
  have whole : ¬isDecimal ((writeNumber value ++ rest).takeWhile isNumeral) = true := by
    rw [(span_of_isApart numerals (fun _ => id) apart).1, isDecimal_writeNumber]
    exact Bool.false_ne_true
  rw [readNumber, dif_neg whole, readInteger_write value apart, Option.map_some]

theorem readNumber_decimal (value : Decimal) {rest : List Char} (apart : IsApart rest) :
    readNumber (value.text ++ rest) = some (.decimal value, rest) := by
  obtain ⟨taken, dropped⟩ :=
    span_of_isApart (fun _ => value.isNumeral_of_mem) (fun _ => id) apart
  simp only [readNumber, taken, dropped]
  exact dif_pos value.isDecimal

theorem exists_write_cons (value : Json) :
    ∃ c tail, value.write = c :: tail ∧ isBlank c = false ∧ c ≠ ']' := by
  cases value with
  | null => exact ⟨_, _, by rw [write]; rfl, by decide, by decide⟩
  | bool value => cases value <;> exact ⟨_, _, by rw [write]; rfl, by decide, by decide⟩
  | number value =>
    obtain ⟨c, tail, written, opens⟩ := exists_writeNumber_cons value
    refine ⟨c, tail, by rw [write, written], isBlank_of_opensNumber opens, ?_⟩
    rintro rfl
    exact absurd opens (by decide)
  | decimal value =>
    obtain ⟨c, tail, written, opens⟩ := value.exists_cons
    refine ⟨c, tail, by rw [write, written], isBlank_of_opensNumber opens, ?_⟩
    rintro rfl
    exact absurd opens (by decide)
  | string text => exact ⟨_, _, by rw [write]; rfl, by decide, by decide⟩
  | array items => exact ⟨_, _, by rw [write], by decide, by decide⟩
  | object members => exact ⟨_, _, by rw [write], by decide, by decide⟩

theorem exists_writeItems_cons (item : Json) (items : List Json) :
    ∃ c tail, writeItems (item :: items) = c :: tail ∧ isBlank c = false ∧ c ≠ ']' := by
  obtain ⟨c, tail, written, first⟩ := exists_write_cons item
  cases items with
  | nil => exact ⟨c, tail, by rw [writeItems, written], first⟩
  | cons next items => exact ⟨c, _, by rw [writeItems, written, List.cons_append], first⟩

theorem exists_writeMembers_cons (member : String × Json) (members : List (String × Json)) :
    ∃ tail, writeMembers (member :: members) = '"' :: tail := by
  obtain ⟨name, value⟩ := member
  cases members with
  | nil => exact ⟨_, by rw [writeMembers, writeString, List.cons_append]⟩
  | cons next members => exact ⟨_, by rw [writeMembers, writeString, List.cons_append]⟩

theorem readScalar_of_opensNumber (opens : opensNumber c = true) (rest : List Char) :
    readScalar (c :: rest) = readNumber (c :: rest) := by
  have solid := isBlank_of_opensNumber opens
  unfold readScalar
  rw [List.dropWhile_cons_of_neg (by simp [solid])]
  split
  case h_5 => rfl
  all_goals
    rename_i same
    rw [(List.cons.inj same).1] at opens
    exact absurd opens (by decide)

theorem isApart_cons (apart : isNumeral c = false) (rest : List Char) : IsApart (c :: rest) :=
  fun _ first => Option.some.inj first ▸ apart

theorem exists_succ_of_write {value : Json} {fuel : Nat} (enough : value.write.length ≤ fuel) :
    ∃ less, fuel = less + 1 := by
  obtain ⟨c, tail, written, -⟩ := exists_write_cons value
  rw [written] at enough
  exact Nat.exists_eq_succ_of_ne_zero (Nat.ne_zero_of_lt enough)

theorem readValue_of_scalar {value : Json} {fuel : Nat} (enough : value.write.length ≤ fuel)
    (opens : ∃ c tail, value.write = c :: tail ∧ isBlank c = false ∧ c ≠ '[' ∧ c ≠ '\x7b')
    (read : readScalar (value.write ++ rest) = some (value, rest)) :
    readValue fuel (value.write ++ rest) = some (value, rest) := by
  obtain ⟨fuel, rfl⟩ := exists_succ_of_write enough
  obtain ⟨c, tail, written, solid, notArray, notObject⟩ := opens
  rw [written, List.cons_append] at read ⊢
  rw [readValue, after?_other solid notArray, after?_other solid notObject]
  exact read

theorem readValue_of_number {value : Json} {fuel : Nat} (enough : value.write.length ≤ fuel)
    (opens : ∃ c tail, value.write = c :: tail ∧ opensNumber c = true)
    (read : readNumber (value.write ++ rest) = some (value, rest)) :
    readValue fuel (value.write ++ rest) = some (value, rest) := by
  obtain ⟨c, tail, written, opens⟩ := opens
  have notArray : c ≠ '[' ∧ c ≠ '\x7b' := by
    constructor <;> (rintro rfl; exact absurd opens (by decide))
  refine readValue_of_scalar enough
    ⟨c, tail, written, isBlank_of_opensNumber opens, notArray⟩ ?_
  rw [written, List.cons_append] at read ⊢
  rw [readScalar_of_opensNumber opens, read]

theorem readValue_array (fuel : Nat) (rest : List Char) :
    readValue (fuel + 1) ('[' :: rest) =
      match after? ']' rest with
      | some rest => some (.array [], rest)
      | none => (readItems fuel rest).map fun (items, rest) => (.array items, rest) := by
  rw [readValue, after?_same (by decide)]

theorem readValue_object (fuel : Nat) (rest : List Char) :
    readValue (fuel + 1) ('\x7b' :: rest) =
      match after? '\x7d' rest with
      | some rest => some (.object [], rest)
      | none => (readMembers fuel rest).map fun (members, rest) => (.object members, rest) := by
  rw [readValue, after?_other (by decide) (by decide), after?_same (by decide)]

section Lists

variable {fuel : Nat} {item value : Json} {items : List Json} {name : String}
  {members : List (String × Json)} {text left : List Char}

theorem readItems_last (read : readValue fuel text = some (item, ']' :: rest)) :
    readItems (fuel + 1) text = some ([item], rest) := by
  rw [readItems, read]
  rfl

theorem readItems_next (read : readValue fuel text = some (item, ',' :: rest))
    (others : readItems fuel rest = some (items, left)) :
    readItems (fuel + 1) text = some (item :: items, left) := by
  rw [readItems, read]
  show (readItems fuel rest >>= fun found => some (item :: found.1, found.2)) = _
  rw [others]
  rfl

theorem readMembers_last
    (read : readValue fuel text = some (value, '\x7d' :: rest)) :
    readMembers (fuel + 1) (writeString name ++ ':' :: text) = some ([(name, value)], rest) := by
  rw [readMembers, readString_write]
  show (readValue fuel text >>= _) = _
  rw [read]
  rfl

theorem readMembers_next (read : readValue fuel text = some (value, ',' :: rest))
    (others : readMembers fuel rest = some (members, left)) :
    readMembers (fuel + 1) (writeString name ++ ':' :: text) =
      some ((name, value) :: members, left) := by
  rw [readMembers, readString_write]
  show (readValue fuel text >>= _) = _
  rw [read]
  show (readMembers fuel rest >>= fun found => some ((name, value) :: found.1, found.2)) = _
  rw [others]
  rfl

end Lists

mutual

/-- What is written for a value is read as the value, wherever it stands. -/
theorem readValue_write : (value : Json) → {rest : List Char} → {fuel : Nat} →
    value.write.length ≤ fuel → IsApart rest →
      readValue fuel (value.write ++ rest) = some (value, rest)
  | .null, rest, fuel, enough, _ => by
    have written : write .null = ['n', 'u', 'l', 'l'] := by
      rw [write]
      rfl
    exact readValue_of_scalar enough ⟨_, _, written, by decide⟩ (by rw [written]; rfl)
  | .bool true, rest, fuel, enough, _ => by
    have written : write (.bool true) = ['t', 'r', 'u', 'e'] := by
      rw [write]
      rfl
    exact readValue_of_scalar enough ⟨_, _, written, by decide⟩ (by rw [written]; rfl)
  | .bool false, rest, fuel, enough, _ => by
    have written : write (.bool false) = ['f', 'a', 'l', 's', 'e'] := by
      rw [write]
      rfl
    exact readValue_of_scalar enough ⟨_, _, written, by decide⟩ (by rw [written]; rfl)
  | .number value, rest, fuel, enough, apart => by
    have written : write (.number value) = writeNumber value := by
      rw [write]
    refine readValue_of_number enough ?_ ?_ <;> rw [written]
    · exact exists_writeNumber_cons value
    · exact readNumber_writeNumber value apart
  | .decimal value, rest, fuel, enough, apart => by
    have written : write (.decimal value) = value.text := by
      rw [write]
    refine readValue_of_number enough ?_ ?_ <;> rw [written]
    · exact value.exists_cons
    · exact readNumber_decimal value apart
  | .string text, rest, fuel, enough, _ => by
    refine readValue_of_scalar enough ⟨'"', _, by rw [write]; rfl, by decide⟩ ?_
    have read := readString_write text rest
    rw [write]
    show (readString (writeString text ++ rest)).map _ = _
    rw [read, Option.map_some]
  | .array [], rest, fuel, enough, _ => by
    obtain ⟨fuel, rfl⟩ := exists_succ_of_write enough
    rw [write, writeItems, List.nil_append, List.cons_append, readValue_array]
    rfl
  | .array (item :: items), rest, fuel, enough, _ => by
    obtain ⟨fuel, rfl⟩ := exists_succ_of_write enough
    rw [write, List.length_cons, List.length_append, List.length_singleton] at enough
    have read := @readItems_write (item :: items) (List.cons_ne_nil _ _) rest fuel (by omega)
    obtain ⟨c, tail, written, solid, notClosing⟩ := exists_writeItems_cons item items
    rw [write, List.cons_append, List.append_assoc, List.singleton_append, readValue_array]
    rw [written, List.cons_append] at read ⊢
    rw [after?_other solid notClosing]
    show (readItems fuel _).map _ = _
    rw [read, Option.map_some]
  | .object [], rest, fuel, enough, _ => by
    obtain ⟨fuel, rfl⟩ := exists_succ_of_write enough
    rw [write, writeMembers, List.nil_append, List.cons_append, readValue_object]
    rfl
  | .object (member :: members), rest, fuel, enough, _ => by
    obtain ⟨fuel, rfl⟩ := exists_succ_of_write enough
    rw [write, List.length_cons, List.length_append, List.length_singleton] at enough
    have read := @readMembers_write (member :: members) (List.cons_ne_nil _ _) rest fuel (by omega)
    obtain ⟨tail, written⟩ := exists_writeMembers_cons member members
    rw [write, List.cons_append, List.append_assoc, List.singleton_append, readValue_object]
    rw [written, List.cons_append] at read ⊢
    rw [after?_other (by decide) (by decide)]
    show (readMembers fuel _).map _ = _
    rw [read, Option.map_some]

theorem readItems_write : (items : List Json) → items ≠ [] → {rest : List Char} → {fuel : Nat} →
    (writeItems items).length < fuel →
      readItems fuel (writeItems items ++ ']' :: rest) = some (items, rest)
  | [], nonempty, _, _, _ => absurd rfl nonempty
  | [item], _, rest, fuel + 1, enough => by
    rw [writeItems] at enough ⊢
    exact readItems_last
      (readValue_write item (Nat.le_of_lt_succ enough) (isApart_cons (by decide) _))
  | item :: next :: items, _, rest, fuel + 1, enough => by
    rw [writeItems, List.length_append, List.length_cons] at enough
    rw [writeItems, List.append_assoc, List.cons_append]
    exact readItems_next (readValue_write item (by omega) (isApart_cons (by decide) _))
      (readItems_write (next :: items) (List.cons_ne_nil _ _) (by omega))

theorem readMembers_write : (members : List (String × Json)) → members ≠ [] → {rest : List Char} →
    {fuel : Nat} → (writeMembers members).length < fuel →
      readMembers fuel (writeMembers members ++ '\x7d' :: rest) = some (members, rest)
  | [], nonempty, _, _, _ => absurd rfl nonempty
  | [(name, value)], _, rest, fuel + 1, enough => by
    rw [writeMembers, List.length_append, List.length_cons] at enough
    rw [writeMembers, List.append_assoc, List.cons_append]
    exact readMembers_last (readValue_write value (by omega) (isApart_cons (by decide) _))
  | (name, value) :: next :: members, _, rest, fuel + 1, enough => by
    rw [writeMembers, List.length_append, List.length_cons, List.length_append,
      List.length_cons] at enough
    rw [writeMembers, List.append_assoc, List.cons_append, List.append_assoc, List.cons_append]
    exact readMembers_next (readValue_write value (by omega) (isApart_cons (by decide) _))
      (readMembers_write (next :: members) (List.cons_ne_nil _ _) (by omega))

end

/-- A written text is read as the value for which it was written. -/
theorem read?_render (value : Json) : read? value.render = some value := by
  have read : readValue value.write.length (value.write ++ []) = some (value, []) :=
    readValue_write value (Nat.le_refl _) nofun
  rw [List.append_nil] at read
  rw [read?, render, String.toList_ofList, read]
  rfl

theorem render_injective {first second : Json} (same : first.render = second.render) :
    first = second :=
  Option.some.inj <|
    (read?_render first).symm.trans ((congrArg read? same).trans (read?_render second))

end Json

end TransportSeams
