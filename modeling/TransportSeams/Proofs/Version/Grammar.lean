import Mathlib.Data.List.Forall2
import Mathlib.Data.List.TakeWhile
import Mathlib.Tactic.Tauto
import TransportSeams.Version

/-!
The grammar of versions. A version is read from the core of a text, which is what stands before the
suffix once the blank characters around both are gone. The core is one to three components with a
dot between any two; a fourth one and a piece that is no component are told apart. What is printed
for a version is such a core, so that it is read as the version again.
-/

set_option autoImplicit false
set_option relaxedAutoImplicit false

namespace TransportSeams

namespace Text

/-- `kept` is the text without the blank characters at its ends. -/
def IsTrimmed (text kept : List Char) : Prop :=
  ∃ left right, text = left ++ kept ++ right ∧
    (∀ c ∈ left, isBlank c = true) ∧ (∀ c ∈ right, isBlank c = true) ∧
    (∀ c ∈ kept.head?, isBlank c = false) ∧ ∀ c ∈ kept.getLast?, isBlank c = false

theorem isBlank_head?_dropWhile (text : List Char) :
    ∀ c ∈ (text.dropWhile isBlank).head?, isBlank c = false := by
  intro c first
  have dropped := List.head?_dropWhile_not isBlank text
  rwa [Option.mem_def.1 first] at dropped

theorem isBlank_getLast?_trimBlankEnd (text : List Char) :
    ∀ c ∈ (trimBlankEnd text).getLast?, isBlank c = false := by
  intro c last
  rw [trimBlankEnd, List.getLast?_reverse] at last
  exact isBlank_head?_dropWhile _ c last

theorem exists_trimBlankEnd_append (text : List Char) :
    ∃ right, text = trimBlankEnd text ++ right ∧ ∀ c ∈ right, isBlank c = true := by
  refine ⟨(text.reverse.takeWhile isBlank).reverse, ?_, ?_⟩
  · rw [trimBlankEnd, ← List.reverse_append, List.takeWhile_append_dropWhile, List.reverse_reverse]
  · exact fun c member => List.mem_takeWhile_imp (List.mem_reverse.1 member)

theorem trimBlankEnd_eq {kept right : List Char} (blank : ∀ c ∈ right, isBlank c = true)
    (last : ∀ c ∈ kept.getLast?, isBlank c = false) : trimBlankEnd (kept ++ right) = kept := by
  have blank' : ∀ c ∈ right.reverse, isBlank c = true :=
    fun c member => blank c (List.mem_reverse.1 member)
  have stays : kept.reverse.dropWhile isBlank = kept.reverse := by
    cases reversed : kept.reverse with
    | nil => rfl
    | cons c rest =>
      have here : isBlank c = false := last c (by rw [← List.head?_reverse, reversed]; rfl)
      rw [List.dropWhile_cons_of_neg (by simp [here])]
  rw [trimBlankEnd, List.reverse_append, List.dropWhile_append_of_pos blank', stays,
    List.reverse_reverse]

theorem isTrimmed_iff {text kept : List Char} : IsTrimmed text kept ↔ trimBlank text = kept := by
  constructor
  · rintro ⟨left, right, rfl, blankLeft, blankRight, first, last⟩
    rw [trimBlank, List.append_assoc, List.dropWhile_append_of_pos blankLeft]
    cases kept with
    | nil =>
      rw [List.nil_append, List.dropWhile_eq_nil_iff.2 blankRight]
      rfl
    | cons c rest =>
      have here : isBlank c = false := first c rfl
      rw [List.cons_append, List.dropWhile_cons_of_neg (by simp [here]), ← List.cons_append]
      exact trimBlankEnd_eq blankRight last
  · rintro rfl
    obtain ⟨right, ends, blank⟩ := exists_trimBlankEnd_append (text.dropWhile isBlank)
    refine ⟨text.takeWhile isBlank, right, ?_, fun c => List.mem_takeWhile_imp, blank, ?_,
      isBlank_getLast?_trimBlankEnd _⟩
    · rw [trimBlank, List.append_assoc, ← ends, List.takeWhile_append_dropWhile]
    -- What is kept starts where the text without its blank start does.
    · intro c first
      refine isBlank_head?_dropWhile text c ?_
      rw [ends, List.head?_append, ← trimBlank, Option.mem_def.1 first]
      rfl

/-- A text that starts and ends with characters that are not blank protects itself from trimming,
whatever follows it. -/
theorem isTrimmed_append {kept : List Char} (solid : ∀ c ∈ kept, isBlank c = false)
    (nonempty : kept ≠ []) (rest : List Char) :
    IsTrimmed (kept ++ rest) (kept ++ trimBlankEnd rest) := by
  obtain ⟨right, ends, blank⟩ := exists_trimBlankEnd_append rest
  refine ⟨[], right, ?_, List.forall_mem_nil _, blank, ?_, ?_⟩
  · rw [List.nil_append, List.append_assoc, ← ends]
  · intro c first
    rw [List.head?_append_of_ne_nil _ nonempty] at first
    exact solid c (List.mem_of_mem_head? first)
  · intro c last
    rw [List.getLast?_append] at last
    cases ending : (trimBlankEnd rest).getLast? with
    | none =>
      rw [ending] at last
      exact solid c (List.mem_of_mem_getLast? last)
    | some d =>
      rw [ending] at last
      cases last
      exact isBlank_getLast?_trimBlankEnd rest c ending

theorem pieces_append {sep : Char} {piece : List Char} (whole : sep ∉ piece) (rest : List Char) :
    pieces sep (piece ++ sep :: rest) = piece :: pieces sep rest := by
  induction piece with
  | nil => exact if_pos rfl
  | cons c tail ih =>
    have other : c ≠ sep := fun same => whole (same ▸ List.mem_cons_self)
    rw [List.cons_append, pieces, if_neg other,
      ih fun member => whole (List.mem_cons_of_mem c member)]

theorem pieces_whole {sep : Char} {piece : List Char} (whole : sep ∉ piece) :
    pieces sep piece = [piece] := by
  induction piece with
  | nil => rfl
  | cons c tail ih =>
    have other : c ≠ sep := fun same => whole (same ▸ List.mem_cons_self)
    rw [pieces, if_neg other, ih fun member => whole (List.mem_cons_of_mem c member)]

end Text

namespace BackendVersion

structure IsComponent (piece : List Char) (value : UInt32) : Prop where
  nonempty : piece ≠ []
  digits : ∀ c ∈ piece, '0' ≤ c ∧ c ≤ '9'
  reads : Nat.ofDigitChars 10 piece 0 = value.toNat

/-- The versions that cores stand for; components that are not written are zero. -/
inductive Denotes : List Char → BackendVersion → Prop where
  | one {a : List Char} {x : UInt32} : IsComponent a x → Denotes a ⟨x, 0, 0⟩
  | two {a b : List Char} {x y : UInt32} :
    IsComponent a x → IsComponent b y → Denotes (a ++ '.' :: b) ⟨x, y, 0⟩
  | three {a b c : List Char} {x y z : UInt32} :
    IsComponent a x → IsComponent b y → IsComponent c z →
      Denotes (a ++ '.' :: (b ++ '.' :: c)) ⟨x, y, z⟩

/-- After three components there is a dot, and so a fourth piece. -/
def HasSurplus (core : List Char) : Prop :=
  ∃ a b c rest x y z, IsComponent a x ∧ IsComponent b y ∧ IsComponent c z ∧
    core = a ++ '.' :: (b ++ '.' :: (c ++ '.' :: rest))

/-- Nothing, or what starts with one of the characters that end a core. -/
def IsSuffix (suffix : List Char) : Prop :=
  ∀ c ∈ suffix.head?, c = '-' ∨ c = '+'

/-- The core of a text: with its suffix it is the text without the blank characters at the ends. -/
def IsCore (text core : List Char) : Prop :=
  ∃ suffix, Text.IsTrimmed text (core ++ suffix) ∧ (∀ c ∈ core, c ≠ '-' ∧ c ≠ '+') ∧
    IsSuffix suffix

theorem isCore_iff {text : String} {part : List Char} :
    IsCore text.toList part ↔ core text = part := by
  constructor
  · rintro ⟨suffix, trimmed, inner, ends⟩
    rw [core, Text.isTrimmed_iff.1 trimmed,
      List.takeWhile_append_of_pos fun c member => decide_eq_true (inner c member)]
    cases suffix with
    | nil => rw [List.takeWhile_nil, List.append_nil]
    | cons c rest =>
      have stops : ¬(c ≠ '-' ∧ c ≠ '+') := by
        have here := ends c rfl
        tauto
      rw [List.takeWhile_cons_of_neg (by simpa using stops), List.append_nil]
  · rintro rfl
    refine ⟨(Text.trimBlank text.toList).dropWhile fun c => c ≠ '-' ∧ c ≠ '+', ?_, ?_, ?_⟩
    · rw [core, List.takeWhile_append_dropWhile]
      exact Text.isTrimmed_iff.2 rfl
    · intro c member
      rw [core] at member
      have inner := List.mem_takeWhile_imp member
      exact of_decide_eq_true inner
    · intro c first
      have dropped := List.head?_dropWhile_not (fun c => decide (c ≠ '-' ∧ c ≠ '+'))
        (Text.trimBlank text.toList)
      rw [Option.mem_def.1 first] at dropped
      have stops := of_decide_eq_false dropped
      tauto

theorem component?_eq_some {piece : List Char} {value : UInt32} :
    component? piece = some value ↔ IsComponent piece value := by
  have digits : (piece.all Text.isDigit = true) ↔ ∀ c ∈ piece, '0' ≤ c ∧ c ≤ '9' := by
    simp [Text.isDigit]
  have meaning : Text.decimalValue piece = Nat.ofDigitChars 10 piece 0 := rfl
  rw [component?, Text.decimal?, meaning]
  constructor
  · intro read
    split at read
    · rename_i shape
      rw [Option.bind_some] at read
      split at read
      · rename_i small
        cases read
        exact ⟨shape.1, digits.1 shape.2, (UInt32.toNat_ofNat_of_lt' small).symm⟩
      · cases read
    · cases read
  · rintro ⟨nonempty, shape, reads⟩
    rw [if_pos ⟨nonempty, digits.2 shape⟩, Option.bind_some, reads, if_pos value.toNat_lt,
      UInt32.ofNat_toNat]

theorem IsComponent.not_mem_dot {piece : List Char} {value : UInt32}
    (component : IsComponent piece value) : '.' ∉ piece := by
  intro member
  exact absurd (component.digits '.' member).1 (by decide)

section Reading

variable {text : String} {slots : Nat} {parts : List (List Char)}

theorem readComponents_eq_ok {values : List UInt32} :
    readComponents text slots parts = .ok values ↔
      parts.length ≤ slots ∧ List.Forall₂ IsComponent parts values := by
  induction parts generalizing slots values with
  | nil => cases slots <;> simp [readComponents, eq_comm]
  | cons part rest ih =>
    cases slots with
    | zero => simp [readComponents]
    | succ left =>
      rw [readComponents]
      cases read : component? part with
      | none =>
        have wrong (value : UInt32) : ¬IsComponent part value := fun component => by
          rw [component?_eq_some.2 component] at read
          cases read
        simp [List.forall₂_cons_left_iff, wrong]
      | some value =>
        have component := component?_eq_some.1 read
        have unique {other : UInt32} (component' : IsComponent part other) : other = value :=
          Option.some.inj ((component?_eq_some.2 component').symm.trans read)
        constructor
        · intro done
          cases later : readComponents text left rest with
          | error fault =>
            rw [later] at done
            cases done
          | ok others =>
            rw [later] at done
            cases done
            obtain ⟨short, components⟩ := ih.1 later
            exact ⟨Nat.succ_le_succ short, .cons component components⟩
        · rintro ⟨short, components⟩
          cases components with
          | cons first others =>
            rw [unique first]
            have later := ih.2 ⟨Nat.le_of_succ_le_succ short, others⟩
            simp only [later]
            rfl

theorem readComponents_eq_surplus :
    readComponents text slots parts = .error (.surplusComponent text) ↔
      slots < parts.length ∧ ∀ part ∈ parts.take slots, ∃ value, IsComponent part value := by
  induction parts generalizing slots with
  | nil => cases slots <;> simp [readComponents]
  | cons part rest ih =>
    cases slots with
    | zero => simp [readComponents]
    | succ left =>
      rw [readComponents, List.take_succ_cons, List.forall_mem_cons, List.length_cons,
        Nat.succ_lt_succ_iff]
      cases read : component? part with
      | none =>
        have wrong : ¬∃ value, IsComponent part value := by
          rintro ⟨value, component⟩
          rw [component?_eq_some.2 component] at read
          cases read
        simp [wrong]
      | some value =>
        have component : ∃ value, IsComponent part value := ⟨value, component?_eq_some.1 read⟩
        rw [← and_assoc, and_right_comm, and_iff_left component, ← ih]
        cases readComponents text left rest <;> simp [Except.map]

theorem readComponents_error {fault : VersionFault}
    (failed : readComponents text slots parts = .error fault) :
    fault = .surplusComponent text ∨ fault = .notNumeric text := by
  induction parts generalizing slots with
  | nil => cases slots <;> cases failed
  | cons part rest ih =>
    cases slots with
    | zero =>
      cases failed
      exact .inl rfl
    | succ left =>
      rw [readComponents] at failed
      cases read : component? part with
      | none =>
        rw [read] at failed
        cases failed
        exact .inr rfl
      | some value =>
        rw [read] at failed
        cases later : readComponents text left rest with
        | error fault' =>
          rw [later] at failed
          cases failed
          exact ih later
        | ok others =>
          rw [later] at failed
          cases failed

end Reading

theorem denotes_iff {part : List Char} {version : BackendVersion} :
    Denotes part version ↔ ∃ values, (Text.pieces '.' part).length ≤ 3 ∧
      List.Forall₂ IsComponent (Text.pieces '.' part) values ∧ ofComponents values = version := by
  constructor
  · rintro (first | ⟨first, second⟩ | ⟨first, second, third⟩)
    · rw [Text.pieces_whole first.not_mem_dot]
      exact ⟨_, by simp, .cons first .nil, rfl⟩
    · rw [Text.pieces_append first.not_mem_dot, Text.pieces_whole second.not_mem_dot]
      exact ⟨_, by simp, .cons first (.cons second .nil), rfl⟩
    · rw [Text.pieces_append first.not_mem_dot, Text.pieces_append second.not_mem_dot,
        Text.pieces_whole third.not_mem_dot]
      exact ⟨_, by simp, .cons first (.cons second (.cons third .nil)), rfl⟩
  · rintro ⟨values, short, components, rfl⟩
    -- The text is its pieces with dots between them; there are one to three.
    have joined := Text.join_pieces '.' part
    match pieces : Text.pieces '.' part with
    | [] => exact absurd pieces (Text.pieces_ne_nil '.' part)
    | [a] =>
      rw [pieces] at joined components
      cases components with
      | cons first others =>
        cases others
        exact joined ▸ .one first
    | [a, b] =>
      rw [pieces] at joined components
      cases components with
      | cons first others =>
        obtain ⟨y, _, second, ⟨⟩, rfl⟩ := List.forall₂_cons_left_iff.1 others
        rw [← joined, Text.join, Text.join, List.append_assoc]
        exact .two first second
    | [a, b, c] =>
      rw [pieces] at joined components
      cases components with
      | cons first others =>
        obtain ⟨y, _, second, last, rfl⟩ := List.forall₂_cons_left_iff.1 others
        obtain ⟨z, _, third, ⟨⟩, rfl⟩ := List.forall₂_cons_left_iff.1 last
        rw [← joined, Text.join, Text.join, Text.join, List.append_assoc, List.append_assoc]
        exact .three first second third
    | _ :: _ :: _ :: _ :: _ =>
      rw [pieces] at short
      simp only [List.length_cons] at short
      omega

theorem hasSurplus_iff {part : List Char} :
    HasSurplus part ↔ 3 < (Text.pieces '.' part).length ∧
      ∀ piece ∈ (Text.pieces '.' part).take 3, ∃ value, IsComponent piece value := by
  constructor
  · rintro ⟨a, b, c, rest, x, y, z, first, second, third, rfl⟩
    rw [Text.pieces_append first.not_mem_dot, Text.pieces_append second.not_mem_dot,
      Text.pieces_append third.not_mem_dot]
    refine ⟨?_, ?_⟩
    · have more := List.length_pos_iff.2 (Text.pieces_ne_nil '.' rest)
      simp only [List.length_cons]
      omega
    · simp only [List.take_succ_cons, List.take_zero, List.forall_mem_cons]
      exact ⟨⟨x, first⟩, ⟨y, second⟩, ⟨z, third⟩, List.forall_mem_nil _⟩
  · rintro ⟨long, components⟩
    have joined := Text.join_pieces '.' part
    match pieces : Text.pieces '.' part with
    | a :: b :: c :: d :: others =>
      rw [pieces] at joined components
      simp only [List.take_succ_cons, List.take_zero, List.forall_mem_cons] at components
      obtain ⟨⟨x, first⟩, ⟨y, second⟩, ⟨z, third⟩, -⟩ := components
      refine ⟨a, b, c, Text.join ['.'] (d :: others), x, y, z, first, second, third, ?_⟩
      rw [← joined]
      simp [Text.join]
    | [] | [_] | [_, _] | [_, _, _] =>
      rw [pieces] at long
      simp only [List.length_cons, List.length_nil] at long
      omega

theorem parse_of_core {text : String} (written : core text ≠ []) :
    parse text = (readComponents text 3 (Text.pieces '.' (core text))).map ofComponents :=
  if_neg written

theorem parse_error_of_core {text : String} {fault : VersionFault} (written : core text ≠ [])
    (failed : parse text = .error fault) :
    fault = .surplusComponent text ∨ fault = .notNumeric text := by
  rw [parse_of_core written] at failed
  cases read : readComponents text 3 (Text.pieces '.' (core text)) with
  | ok values =>
    rw [read] at failed
    cases failed
  | error fault' =>
    rw [read] at failed
    cases failed
    exact readComponents_error read

theorem Denotes.ne_nil {part : List Char} {version : BackendVersion}
    (denotes : Denotes part version) : part ≠ [] := by
  cases denotes with
  | one first => exact first.nonempty
  | two first | three first => simp

theorem HasSurplus.ne_nil {part : List Char} (surplus : HasSurplus part) : part ≠ [] := by
  obtain ⟨a, b, c, rest, x, y, z, -, -, -, rfl⟩ := surplus
  simp

theorem parse_eq_ok {text : String} {version : BackendVersion} :
    parse text = .ok version ↔ Denotes (core text) version := by
  by_cases written : core text = []
  · constructor
    · intro read
      rw [parse, if_pos written] at read
      cases read
    · exact fun denotes => absurd written denotes.ne_nil
  · rw [parse_of_core written, denotes_iff]
    constructor
    · intro read
      cases done : readComponents text 3 (Text.pieces '.' (core text)) with
      | error fault =>
        rw [done] at read
        cases read
      | ok values =>
        rw [done] at read
        obtain ⟨short, components⟩ := readComponents_eq_ok.1 done
        exact ⟨values, short, components, Except.ok.inj read⟩
    · rintro ⟨values, short, components, rfl⟩
      rw [readComponents_eq_ok.2 ⟨short, components⟩]
      rfl

theorem parse_eq_empty {text : String} : parse text = .error .empty ↔ core text = [] := by
  constructor
  · intro failed
    by_contra written
    rcases parse_error_of_core written failed with other | other <;> cases other
  · exact fun nothing => if_pos nothing

theorem parse_eq_surplus {text : String} :
    parse text = .error (.surplusComponent text) ↔ HasSurplus (core text) := by
  by_cases written : core text = []
  · constructor
    · intro failed
      rw [parse_eq_empty.2 written] at failed
      cases failed
    · exact fun surplus => absurd written surplus.ne_nil
  · rw [parse_of_core written, hasSurplus_iff, ← readComponents_eq_surplus]
    cases readComponents text 3 (Text.pieces '.' (core text)) <;> simp [Except.map]

theorem parse_eq_notNumeric {text : String} :
    parse text = .error (.notNumeric text) ↔
      core text ≠ [] ∧ ¬HasSurplus (core text) ∧ ∀ version, ¬Denotes (core text) version := by
  rw [← parse_eq_surplus, Ne, ← parse_eq_empty]
  simp only [← parse_eq_ok]
  constructor
  · intro failed
    rw [failed]
    exact ⟨by simp, by simp, by simp⟩
  · rintro ⟨written, short, unread⟩
    rw [parse_eq_empty] at written
    cases read : parse text with
    | ok version => exact absurd read (unread version)
    | error fault =>
      rcases parse_error_of_core written read with rfl | rfl
      · exact absurd read short
      · rfl

def Faults (text : String) (fault : VersionFault) : Prop :=
  fault = .empty ∨ fault = .surplusComponent text ∨ fault = .notNumeric text

theorem faults_of_parse {text : String} {fault : VersionFault}
    (failed : parse text = .error fault) : Faults text fault := by
  by_cases written : core text = []
  · rw [parse_eq_empty.2 written] at failed
    cases failed
    exact .inl rfl
  · exact .inr (parse_error_of_core written failed)

theorem message_empty_ne {text : String} {fault : VersionFault}
    (other : fault = .surplusComponent text ∨ fault = .notNumeric text) :
    VersionFault.message .empty ≠ fault.message := by
  intro same
  have first := congrArg (fun message => message.toList.head?) same
  rcases other with rfl | rfl <;> simp [VersionFault.message] at first

theorem Faults.message_inj {text : String} {a b : VersionFault} (fault : Faults text a)
    (fault' : Faults text b) : a.message = b.message ↔ a = b := by
  refine ⟨fun same => ?_, congrArg _⟩
  rcases fault with rfl | fault
  · rcases fault' with rfl | fault'
    · rfl
    · exact absurd same (message_empty_ne fault')
  · rcases fault' with rfl | fault'
    · exact absurd same.symm (message_empty_ne fault)
    · rcases fault with rfl | rfl <;> rcases fault' with rfl | rfl
      · rfl
      · simp [VersionFault.message] at same
      · simp [VersionFault.message] at same
      · rfl

theorem parse_message {text : String} {fault : VersionFault} (own : Faults text fault) :
    (parse text).mapError VersionFault.message = .error fault.message ↔
      parse text = .error fault := by
  cases read : parse text with
  | ok version => constructor <;> (intro failed; cases failed)
  | error held =>
    have told := (faults_of_parse read).message_inj own
    constructor
    · intro same
      exact congrArg Except.error (told.1 (Except.error.inj same))
    · intro same
      exact congrArg Except.error (told.2 (Except.error.inj same))

theorem isComponent_toDigits (value : UInt32) :
    IsComponent (Nat.toDigits 10 value.toNat) value where
  nonempty := Nat.toDigits_ne_nil
  digits c member := by
    have digit := Nat.isDigit_of_mem_toDigits (by decide) (le_refl 10) member
    rw [Char.isDigit, Bool.and_eq_true, decide_eq_true_eq, decide_eq_true_eq] at digit
    exact digit
  reads := Nat.ofDigitChars_ten_toDigits

theorem denotes_text (version : BackendVersion) : Denotes version.text.toList version := by
  have printed : version.text.toList = Nat.toDigits 10 version.major.toNat ++
      '.' :: (Nat.toDigits 10 version.minor.toNat ++
        '.' :: Nat.toDigits 10 version.patch.toNat) := by
    simp [text]
    rfl
  rw [printed]
  exact .three (isComponent_toDigits _) (isComponent_toDigits _) (isComponent_toDigits _)

theorem Denotes.chars {part : List Char} {version : BackendVersion}
    (denotes : Denotes part version) : ∀ c ∈ part, c = '.' ∨ '0' ≤ c ∧ c ≤ '9' := by
  intro c member
  cases denotes with
  | one first => exact .inr (first.digits c member)
  | two first second =>
    rcases List.mem_append.1 member with member | member
    · exact .inr (first.digits c member)
    · exact (List.mem_cons.1 member).imp_right (second.digits c)
  | three first second third =>
    rcases List.mem_append.1 member with member | member
    · exact .inr (first.digits c member)
    · rcases List.mem_cons.1 member with same | member
      · exact .inl same
      · rcases List.mem_append.1 member with member | member
        · exact .inr (second.digits c member)
        · exact (List.mem_cons.1 member).imp_right (third.digits c)

theorem isBlank_core_char {c : Char} (char : c = '.' ∨ '0' ≤ c ∧ c ≤ '9') :
    Text.isBlank c = false := by
  rcases char with rfl | ⟨low, high⟩
  · decide
  · have low' : 48 ≤ c.toNat := low
    have high' : c.toNat ≤ 57 := high
    simp only [Text.isBlank, Text.blankRanges, List.any_cons, List.any_nil, Bool.or_eq_false_iff,
      Bool.and_eq_false_iff, decide_eq_false_iff_not, and_true]
    omega

/-- A core that stands for a version is the core of each text that continues it with a suffix. -/
theorem Denotes.core_append {version : BackendVersion} {part suffix : String}
    (denotes : Denotes part.toList version) (ends : IsSuffix suffix.toList) :
    core (part ++ suffix) = part.toList := by
  refine isCore_iff.1 ⟨Text.trimBlankEnd suffix.toList, ?_, ?_, ?_⟩
  · rw [String.toList_append]
    exact Text.isTrimmed_append (fun c member => isBlank_core_char (denotes.chars c member))
      denotes.ne_nil suffix.toList
  · intro c member
    rcases denotes.chars c member with rfl | ⟨low, -⟩
    · decide
    · constructor <;> (rintro rfl; exact absurd low (by decide))
  -- Trimming may shorten the suffix, but it stays one.
  · intro c first
    obtain ⟨right, whole, -⟩ := Text.exists_trimBlankEnd_append suffix.toList
    refine ends c ?_
    rw [whole, List.head?_append, Option.mem_def.1 first]
    rfl

/-- How a text with a given core is read: which version it is, and else why it is none. -/
structure ReadsAs (text : String) (part : List Char) : Prop where
  version (version : BackendVersion) : parse text = .ok version ↔ Denotes part version
  empty : (parse text).mapError VersionFault.message = .error "empty version" ↔ part = []
  surplus : (parse text).mapError VersionFault.message =
    .error ("version `" ++ text ++ "` has too many components") ↔ HasSurplus part
  notNumeric : (parse text).mapError VersionFault.message =
    .error ("version `" ++ text ++ "` is not numeric") ↔
      part ≠ [] ∧ ¬HasSurplus part ∧ ∀ version, ¬Denotes part version

/-- Every text has one core and is read by it: the version that the core stands for is accepted,
and an empty core, a fourth component and everything else are refused for what they are. What is
printed for a version, with any suffix or none, is read as the version. -/
theorem parse_exact :
    (∀ text : String, (∃! part, IsCore text.toList part) ∧
      ∀ part, IsCore text.toList part → ReadsAs text part) ∧
    ∀ (version : BackendVersion) (suffix : String), IsSuffix suffix.toList →
      parse (version.text ++ suffix) = .ok version := by
  refine ⟨fun text => ⟨⟨core text, isCore_iff.2 rfl, fun part here => (isCore_iff.1 here).symm⟩,
    ?_⟩, ?_⟩
  · intro part here
    obtain rfl := isCore_iff.1 here
    exact ⟨fun _ => parse_eq_ok, (parse_message (.inl rfl)).trans parse_eq_empty,
      (parse_message (.inr (.inl rfl))).trans parse_eq_surplus,
      (parse_message (.inr (.inr rfl))).trans parse_eq_notNumeric⟩
  · intro version suffix ends
    rw [parse_eq_ok, (denotes_text version).core_append ends]
    exact denotes_text version

end BackendVersion

end TransportSeams
