import TransportSeams.Json.Writer
import TransportSeams.Proofs.Text.Bytes

/-!
What is written for values. A written text starts with a character that opens a value, and it has no
control character in it, so it stands on one line. A string is written with two quotes and, where it
has no controls, a backslash for each quote and backslash in it.
-/

set_option autoImplicit false
set_option relaxedAutoImplicit false

namespace TransportSeams

namespace Text

/-- The characters that stand for themselves after a backslash when a string is written. -/
def isMark (c : Char) : Bool :=
  c = '"' || c = '\\'

def marks (text : List Char) : Nat :=
  text.countP isMark

def IsLine (text : List Char) : Prop :=
  ∀ c ∈ text, 0x20 ≤ c.toNat

instance (text : List Char) : Decidable (IsLine text) :=
  List.decidableBAll (fun c : Char => 0x20 ≤ c.toNat) text

variable {front rest : List Char} {c : Char}

theorem IsLine.append (first : IsLine front) (second : IsLine rest) : IsLine (front ++ rest) :=
  fun c member => (List.mem_append.1 member).elim (first c) (second c)

theorem IsLine.cons (shown : 0x20 ≤ c.toNat) (line : IsLine rest) : IsLine (c :: rest) :=
  List.forall_mem_cons.2 ⟨shown, line⟩

theorem IsLine.nil : IsLine [] :=
  List.forall_mem_nil _

theorem marks_cons (c : Char) (rest : List Char) :
    marks (c :: rest) = marks rest + if isMark c then 1 else 0 :=
  List.countP_cons

theorem marks_append (front rest : List Char) : marks (front ++ rest) = marks front + marks rest :=
  List.countP_append

theorem marks_le_byteSize (text : List Char) : marks text ≤ byteSize text := by
  induction text with
  | nil => exact Nat.le_refl 0
  | cons c rest ih =>
    have positive : 0 < c.utf8Size := c.utf8Size_pos
    rw [marks_cons, byteSize_cons]
    split <;> omega

end Text

namespace Json

open Text

variable {c : Char}

theorem Decimal.isNumeral_of_mem {value : Decimal} (member : c ∈ value.text) :
    isNumeral c = true := by
  have decimal := value.isDecimal
  rw [Json.isDecimal, Bool.and_eq_true, Bool.and_eq_true] at decimal
  exact List.all_eq_true.1 decimal.1.2 c member

theorem Decimal.exists_cons (value : Decimal) :
    ∃ c tail, value.text = c :: tail ∧ opensNumber c = true := by
  have decimal := value.isDecimal
  rw [Json.isDecimal, Bool.and_eq_true, Bool.and_eq_true] at decimal
  cases text : value.text with
  | nil =>
    rw [text] at decimal
    exact absurd decimal.1.1 Bool.false_ne_true
  | cons c tail =>
    rw [text] at decimal
    exact ⟨c, tail, rfl, decimal.1.1⟩

/-- The letters of the short escapes, with the character for which each stands. -/
def shortEscapes : List (Char × Char) :=
  [('"', '"'), ('\\', '\\'), ('b', '\x08'), ('f', '\x0c'), ('n', '\n'), ('r', '\r'), ('t', '\t')]

theorem escapedChar_short : ∀ entry ∈ shortEscapes, escapedChar entry.2 = ['\\', entry.1] := by
  decide

theorem escapedChar_long (long : ∀ entry ∈ shortEscapes, c ≠ entry.2) :
    escapedChar c =
      if c.toNat < 0x20 then
        ['\\', 'u', '0', '0', hexDigit (c.toNat / 16), hexDigit (c.toNat % 16)]
      else [c] := by
  simp only [shortEscapes, List.forall_mem_cons] at long
  obtain ⟨quote, backslash, back, feed, newline, ret, tab, -⟩ := long
  rw [escapedChar, if_neg quote, if_neg backslash, if_neg back, if_neg feed, if_neg newline,
    if_neg ret, if_neg tab]
  split
  · rename_i control
    have whole : (UInt8.ofNat c.toNat).toNat = c.toNat := by
      rw [UInt8.toNat_ofNat']
      omega
    rw [hexByte, whole]
    rfl
  · rfl

/-- A character of a string has a short escape, or is written by its code, or stands for itself. -/
theorem escapedChar_cases (c : Char) :
    (∃ letter, (letter, c) ∈ shortEscapes ∧ escapedChar c = ['\\', letter]) ∨
      (c.toNat < 0x20 ∧ escapedChar c =
        ['\\', 'u', '0', '0', hexDigit (c.toNat / 16), hexDigit (c.toNat % 16)]) ∨
        (0x20 ≤ c.toNat ∧ isMark c = false ∧ escapedChar c = [c]) := by
  by_cases short : ∃ entry ∈ shortEscapes, c = entry.2
  · obtain ⟨⟨letter, _⟩, listed, rfl⟩ := short
    exact .inl ⟨letter, listed, escapedChar_short _ listed⟩
  · have long : ∀ entry ∈ shortEscapes, c ≠ entry.2 := fun entry listed same =>
      short ⟨entry, listed, same⟩
    rw [escapedChar_long long]
    split
    · rename_i control
      exact .inr (.inl ⟨control, rfl⟩)
    · rename_i shown
      have notQuote : c ≠ '"' := long ('"', '"') (by decide)
      have notBackslash : c ≠ '\\' := long ('\\', '\\') (by decide)
      exact .inr (.inr ⟨by omega, by simp [isMark, notQuote, notBackslash], rfl⟩)

theorem escapedChar_of_isMark (mark : isMark c = true) : escapedChar c = ['\\', c] := by
  rcases Bool.or_eq_true_iff.1 mark with quote | backslash
  · obtain rfl := of_decide_eq_true quote
    rfl
  · obtain rfl := of_decide_eq_true backslash
    rfl

theorem escapedChar_of_shown (shown : 0x20 ≤ c.toNat) (plain : isMark c = false) :
    escapedChar c = [c] := by
  have needed : ∀ entry ∈ shortEscapes, isMark entry.2 = true ∨ entry.2.toNat < 0x20 := by decide
  rcases escapedChar_cases c with ⟨letter, listed, -⟩ | ⟨control, -⟩ | ⟨-, -, written⟩
  · rcases needed _ listed with mark | control
    · exact absurd (plain.symm.trans mark) Bool.false_ne_true
    · exact absurd shown (Nat.not_le_of_lt control)
  · exact absurd shown (Nat.not_le_of_lt control)
  · exact written

theorem isLine_escapedChar (c : Char) : IsLine (escapedChar c) := by
  have letters : ∀ entry ∈ shortEscapes, 0x20 ≤ entry.1.toNat := by decide
  have digits : ∀ value < 16, 0x20 ≤ (hexDigit value).toNat := by decide
  rcases escapedChar_cases c with ⟨letter, listed, written⟩ | ⟨control, written⟩ |
    ⟨shown, -, written⟩
  · rw [written]
    exact .cons (by decide) (.cons (letters _ listed) .nil)
  · have code : IsLine [hexDigit (c.toNat / 16), hexDigit (c.toNat % 16)] :=
      .cons (digits _ (by omega)) (.cons (digits _ (by omega)) .nil)
    have lead : IsLine ['\\', 'u', '0', '0'] := by decide
    rw [written]
    exact lead.append code
  · rw [written]
    exact .cons shown .nil

theorem isLine_writeString (text : String) : IsLine (writeString text) := by
  have body : IsLine (text.toList.flatMap escapedChar) := by
    intro c member
    obtain ⟨other, -, written⟩ := List.mem_flatMap.1 member
    exact isLine_escapedChar other c written
  exact .cons (by decide) (body.append (.cons (by decide) .nil))

theorem le_toNat_of_isDigit (digit : c.isDigit = true) : 0x20 ≤ c.toNat := by
  rw [Char.isDigit, Bool.and_eq_true, decide_eq_true_eq, decide_eq_true_eq] at digit
  have low : 48 ≤ c.toNat := digit.1
  omega

theorem isLine_toDigits (value : Nat) : IsLine (Nat.toDigits 10 value) := by
  exact fun c member =>
    le_toNat_of_isDigit (Nat.isDigit_of_mem_toDigits (by decide) (le_refl 10) member)

theorem isLine_writeNumber (value : Int) : IsLine (writeNumber value) := by
  unfold writeNumber
  split
  · exact .cons (by decide) (isLine_toDigits _)
  · exact isLine_toDigits _

theorem isLine_decimal (value : Decimal) : IsLine value.text := by
  have shown : ∀ c : Char, isNumeral c = true → 0x20 ≤ c.toNat := by
    intro c numeral
    simp only [isNumeral, isFractional, Bool.or_eq_true, decide_eq_true_eq] at numeral
    rcases numeral with ((digit | rfl) | rfl) | (rfl | rfl) | rfl
    · exact le_toNat_of_isDigit digit
    all_goals decide
  exact fun c member => shown c (value.isNumeral_of_mem member)

mutual

theorem isLine_write : (value : Json) → IsLine value.write
  | .null => by
    rw [write]
    decide
  | .bool true => by
    rw [write]
    decide
  | .bool false => by
    rw [write]
    decide
  | .number value => by
    rw [write]
    exact isLine_writeNumber value
  | .decimal value => by
    rw [write]
    exact isLine_decimal value
  | .string text => by
    rw [write]
    exact isLine_writeString text
  | .array items => by
    rw [write]
    exact .cons (by decide) ((isLine_writeItems items).append (.cons (by decide) .nil))
  | .object members => by
    rw [write]
    exact .cons (by decide) ((isLine_writeMembers members).append (.cons (by decide) .nil))

theorem isLine_writeItems : (items : List Json) → IsLine (writeItems items)
  | [] => by
    rw [writeItems]
    exact .nil
  | [item] => by
    rw [writeItems]
    exact isLine_write item
  | item :: next :: rest => by
    rw [writeItems]
    exact (isLine_write item).append (.cons (by decide) (isLine_writeItems (next :: rest)))

theorem isLine_writeMembers : (members : List (String × Json)) → IsLine (writeMembers members)
  | [] => by
    rw [writeMembers]
    exact .nil
  | [(name, value)] => by
    rw [writeMembers]
    exact (isLine_writeString name).append (.cons (by decide) (isLine_write value))
  | (name, value) :: next :: rest => by
    rw [writeMembers]
    exact (isLine_writeString name).append (.cons (by decide)
      ((isLine_write value).append (.cons (by decide) (isLine_writeMembers (next :: rest)))))

end

/-- Without controls a string needs two quotes and a backslash for each mark in it. -/
theorem byteSize_writeString {text : List Char} (line : IsLine text) :
    byteSize (writeString (String.ofList text)) = byteSize text + marks text + 2 := by
  have body : byteSize (text.flatMap escapedChar) = byteSize text + marks text := by
    induction text with
    | nil => rfl
    | cons c rest ih =>
      obtain ⟨shown, line⟩ := List.forall_mem_cons.1 line
      rw [List.flatMap_cons, byteSize_append, ih line, byteSize_cons, marks_cons]
      cases mark : isMark c with
      | true =>
        have size : byteSize (escapedChar c) = c.utf8Size + 1 := by
          rw [escapedChar_of_isMark mark]
          exact Nat.add_comm _ _
        rw [size, if_pos rfl]
        omega
      | false =>
        have size : byteSize (escapedChar c) = c.utf8Size := by
          rw [escapedChar_of_shown shown mark]
          rfl
        rw [size, if_neg Bool.false_ne_true]
        omega
  have quote : byteSize ['"'] = 1 := rfl
  rw [writeString, String.toList_ofList, byteSize_cons, byteSize_append, body, quote]
  exact Nat.add_comm _ _

end Json

end TransportSeams
