import Mathlib.Data.List.Infix
import TransportSeams.RunLog.Record

/-!
Texts and their bytes. A text can be cut at an offset of its bytes exactly where one of its starts
ends, so going back from an offset to a cut finds the longest start that ends before it.
-/

set_option autoImplicit false
set_option relaxedAutoImplicit false

namespace TransportSeams.Text

variable {text start other : List Char} {limit offset : Nat} {c : Char}

theorem byteSize_cons (c : Char) (rest : List Char) :
    byteSize (c :: rest) = c.utf8Size + byteSize rest :=
  rfl

theorem byteSize_append (front rest : List Char) :
    byteSize (front ++ rest) = byteSize front + byteSize rest := by
  induction front with
  | nil => exact (Nat.zero_add _).symm
  | cons c front ih => rw [List.cons_append, byteSize_cons, byteSize_cons, ih, Nat.add_assoc]

theorem bytes_cons (c : Char) (rest : List Char) :
    bytes (c :: rest) = String.utf8EncodeChar c ++ bytes rest :=
  List.flatMap_cons

theorem bytes_append (front rest : List Char) :
    bytes (front ++ rest) = bytes front ++ bytes rest :=
  List.flatMap_append

theorem length_bytes (text : List Char) : (bytes text).length = byteSize text := by
  induction text with
  | nil => rfl
  | cons c rest ih =>
    rw [bytes_cons, List.length_append, String.length_utf8EncodeChar, ih, byteSize_cons]

theorem toByteArray_ofList (text : List Char) :
    (String.ofList text).toByteArray = (bytes text).toByteArray :=
  String.toByteArray_ofList

theorem isContinuation_ofNat {n : Nat} (small : n < 256) :
    isContinuation (UInt8.ofNat n) = (decide (128 ≤ n) && decide (n < 192)) := by
  simp [isContinuation, UInt8.le_iff_toNat_le, UInt8.lt_iff_toNat_lt, Nat.mod_eq_of_lt small]

theorem utf8EncodeChar_cases (c : Char) :
    ∃ first others, String.utf8EncodeChar c = first :: others ∧ isContinuation first = false ∧
      ∀ byte ∈ others, isContinuation byte = true := by
  have following (n : Nat) : isContinuation (UInt8.ofNat (n % 64 + 128)) = true := by
    rw [isContinuation_ofNat (by omega)]
    simp
    omega
  have leading {n : Nat} (small : n < 256) (apart : n < 128 ∨ 192 ≤ n) :
      isContinuation (UInt8.ofNat n) = false := by
    rw [isContinuation_ofNat small]
    simp
    omega
  unfold String.utf8EncodeChar
  dsimp only
  split
  · exact ⟨_, [], rfl, leading (by omega) (by omega), List.forall_mem_nil _⟩
  split
  · exact ⟨_, _, rfl, leading (by omega) (by omega),
      List.forall_mem_singleton.2 (following _)⟩
  split
  · exact ⟨_, _, rfl, leading (by omega) (by omega),
      List.forall_mem_cons.2 ⟨following _, List.forall_mem_singleton.2 (following _)⟩⟩
  · exact ⟨_, _, rfl, leading (by omega) (by omega),
      List.forall_mem_cons.2 ⟨following _,
        List.forall_mem_cons.2 ⟨following _, List.forall_mem_singleton.2 (following _)⟩⟩⟩

theorem isBoundary_cons_of_lt {rest : List Char} (inside : offset < c.utf8Size) :
    isBoundary (bytes (c :: rest)) offset = decide (offset = 0) := by
  obtain ⟨first, others, encoded, -, continues⟩ := utf8EncodeChar_cases c
  have width : others.length + 1 = c.utf8Size := by
    rw [← String.length_utf8EncodeChar, encoded, List.length_cons]
  cases offset with
  | zero => rfl
  | succ offset =>
    have within : offset < others.length := by omega
    have found : (bytes (c :: rest))[offset + 1]? = some others[offset] := by
      rw [bytes_cons, encoded, List.cons_append, List.getElem?_cons_succ,
        List.getElem?_append_left within, List.getElem?_eq_getElem within]
    simp [isBoundary, found, continues _ (List.getElem_mem within)]

theorem isBoundary_cons_add (c : Char) (rest : List Char) (offset : Nat) :
    isBoundary (bytes (c :: rest)) (c.utf8Size + offset) = isBoundary (bytes rest) offset := by
  have found : (bytes (c :: rest))[c.utf8Size + offset]? = (bytes rest)[offset]? := by
    rw [bytes_cons, List.getElem?_append_right (by simp), String.length_utf8EncodeChar,
      Nat.add_sub_cancel_left]
  have width : (bytes (c :: rest)).length = c.utf8Size + (bytes rest).length := by
    rw [bytes_cons, List.length_append, String.length_utf8EncodeChar]
  have positive : 0 < c.utf8Size := c.utf8Size_pos
  cases offset with
  | succ offset =>
    have later : c.utf8Size + (offset + 1) ≠ 0 := by omega
    simp [isBoundary, found, width]
  | zero =>
    have later : c.utf8Size ≠ 0 := by omega
    cases rest with
    | nil => simp [isBoundary, later, bytes]
    | cons next rest =>
      obtain ⟨first, others, encoded, leads, -⟩ := utf8EncodeChar_cases next
      have opens : (bytes (next :: rest))[0]? = some first := by
        rw [bytes_cons, encoded, List.cons_append, List.getElem?_cons_zero]
      rw [Nat.add_zero] at found
      simp [isBoundary, found, opens, leads]

/-- The places where a text can be cut are those where one of its starts ends. -/
theorem isBoundary_iff :
    isBoundary (bytes text) offset = true ↔ ∃ start, start <+: text ∧ byteSize start = offset := by
  induction text generalizing offset with
  | nil =>
    have nowhere : isBoundary (bytes []) offset = decide (offset = 0) := by
      simp [isBoundary, bytes]
    rw [nowhere, decide_eq_true_iff]
    constructor
    · rintro rfl
      exact ⟨[], List.nil_prefix, rfl⟩
    · rintro ⟨start, isPrefix, rfl⟩
      rw [List.prefix_nil.1 isPrefix]
      rfl
  | cons c rest ih =>
    rcases Nat.lt_or_ge offset c.utf8Size with inside | beyond
    · rw [isBoundary_cons_of_lt inside, decide_eq_true_iff]
      constructor
      · rintro rfl
        exact ⟨[], List.nil_prefix, rfl⟩
      · rintro ⟨start, isPrefix, rfl⟩
        rcases List.prefix_cons_iff.1 isPrefix with rfl | ⟨front, rfl, -⟩
        · rfl
        · rw [byteSize_cons] at inside
          omega
    · obtain ⟨later, rfl⟩ := Nat.exists_eq_add_of_le beyond
      rw [isBoundary_cons_add, ih]
      constructor
      · rintro ⟨start, isPrefix, rfl⟩
        exact ⟨c :: start, (List.prefix_cons_inj c).2 isPrefix, rfl⟩
      · rintro ⟨start, isPrefix, size⟩
        rcases List.prefix_cons_iff.1 isPrefix with rfl | ⟨front, rfl, inner⟩
        · have positive : 0 < c.utf8Size := c.utf8Size_pos
          have none : byteSize [] = 0 := rfl
          omega
        · rw [byteSize_cons] at size
          exact ⟨front, inner, by omega⟩

/-- The longest start of a text that has room in so many bytes. -/
structure IsLongestStart (room : Nat) (text start : List Char) : Prop where
  isPrefix : start <+: text
  fits : byteSize start ≤ room
  longest : ∀ other, other <+: text → byteSize other ≤ room → other <+: start

theorem byteSize_le_of_isPrefix (isPrefix : start <+: text) : byteSize start ≤ byteSize text := by
  obtain ⟨rest, rfl⟩ := isPrefix
  rw [byteSize_append]
  exact Nat.le_add_right _ _

theorem prefix_of_byteSize_le (first : start <+: text) (second : other <+: text)
    (le : byteSize start ≤ byteSize other) : start <+: other := by
  rcases List.prefix_or_prefix_of_prefix first second with isPrefix | ⟨rest, rfl⟩
  · exact isPrefix
  · rw [byteSize_append] at le
    cases rest with
    | nil => rw [List.append_nil]
    | cons c rest =>
      have positive : 0 < c.utf8Size := c.utf8Size_pos
      rw [byteSize_cons] at le
      omega

theorem takeBytes_isLongestStart (limit : Nat) (text : List Char) :
    IsLongestStart limit text (takeBytes limit text) := by
  induction text generalizing limit with
  | nil => exact ⟨List.prefix_rfl, Nat.zero_le _, fun other isPrefix _ => isPrefix⟩
  | cons c rest ih =>
    rw [takeBytes]
    split
    · rename_i room
      obtain ⟨isPrefix, fits, longest⟩ := ih (limit - c.utf8Size)
      refine ⟨(List.prefix_cons_inj c).2 isPrefix, ?_, fun other within small => ?_⟩
      · rw [byteSize_cons]
        omega
      · rcases List.prefix_cons_iff.1 within with rfl | ⟨front, rfl, inner⟩
        · exact List.nil_prefix
        · rw [byteSize_cons] at small
          exact (List.prefix_cons_inj c).2 (longest front inner (by omega))
    · rename_i full
      refine ⟨List.nil_prefix, Nat.zero_le _, fun other within small => ?_⟩
      rcases List.prefix_cons_iff.1 within with rfl | ⟨front, rfl, -⟩
      · exact List.nil_prefix
      · rw [byteSize_cons] at small
        omega

namespace Cut

theorem offset_backFrom_le (text : List Char) (limit : Nat) :
    (backFrom text limit).offset ≤ limit := by
  induction limit with
  | zero => exact Nat.le_refl 0
  | succ limit ih =>
    rw [backFrom]
    split
    · exact Nat.le_refl _
    · exact Nat.le_succ_of_le ih

theorem le_offset_backFrom (boundary : Text.isBoundary (bytes text) offset = true)
    (le : offset ≤ limit) : offset ≤ (backFrom text limit).offset := by
  induction limit with
  | zero => exact le
  | succ limit ih =>
    rw [backFrom]
    split
    · exact le
    · rename_i none
      have earlier : offset ≠ limit + 1 := fun last => none (last ▸ boundary)
      exact ih (by omega)

variable (cut : Cut text)

theorem byteSize_start : byteSize cut.start = cut.offset := by
  obtain ⟨front, isPrefix, ends⟩ := isBoundary_iff.1 cut.isBoundary
  have taken : IsLongestStart cut.offset text cut.start := takeBytes_isLongestStart _ _
  have whole : front <+: cut.start := taken.longest front isPrefix ends.le
  have atLeast : cut.offset ≤ byteSize cut.start := ends ▸ byteSize_le_of_isPrefix whole
  exact Nat.le_antisymm taken.fits atLeast

theorem bytes_start : bytes cut.start = (bytes text).take cut.offset := by
  obtain ⟨rest, whole⟩ := (takeBytes_isLongestStart cut.offset text).isPrefix
  have split : text = cut.start ++ rest := whole.symm
  have size : (bytes cut.start).length = cut.offset := by
    rw [length_bytes, byteSize_start]
  calc bytes cut.start = (bytes cut.start ++ bytes rest).take cut.offset := by
        rw [← size, List.take_left]
    _ = (bytes (cut.start ++ rest)).take cut.offset := by rw [bytes_append]
    _ = (bytes text).take cut.offset := by rw [← split]

theorem offset_le : cut.offset ≤ (bytes text).length := by
  obtain ⟨front, isPrefix, ends⟩ := isBoundary_iff.1 cut.isBoundary
  rw [length_bytes, ← ends]
  exact byteSize_le_of_isPrefix isPrefix

theorem start_backFrom_isLongestStart (text : List Char) (limit : Nat) :
    IsLongestStart limit text (backFrom text limit).start := by
  have first : (backFrom text limit).start <+: text := (takeBytes_isLongestStart _ _).isPrefix
  refine ⟨first, ?_, fun other isPrefix fits => prefix_of_byteSize_le isPrefix first ?_⟩
  · rw [byteSize_start]
    exact offset_backFrom_le text limit
  · rw [byteSize_start]
    exact le_offset_backFrom (isBoundary_iff.2 ⟨other, isPrefix, rfl⟩) fits

end Cut

end TransportSeams.Text
