import TransportSeams.Proofs.Json.Writing

/-!
Payloads cut to a limit. The limit counts the bytes of a payload's text: up to it the payload is
kept, and beyond it a string with the longest start that leaves room for three dots takes its place.
The line holds that string as it is written, with quotes and escapes, so what the line holds can
have nearly twice as many bytes as the limit.
-/

set_option autoImplicit false
set_option relaxedAutoImplicit false

namespace TransportSeams

open Text

namespace Json

/-- Where the text of a value is cut under a limit. -/
def cut (limit : Nat) (value : Json) : Cut value.write :=
  Cut.backFrom value.write (limit - 3)

/-- The string that takes the place of a value beyond the limit. -/
def abridged (limit : Nat) (value : Json) : Json :=
  .string (String.ofList ((value.cut limit).start ++ ['.', '.', '.']))

variable {limit : Nat} {value : Json}

theorem truncate_of_fits (fits : byteSize value.write ≤ limit) : value.truncate limit = value :=
  if_pos fits

theorem truncate_of_exceeds (exceeds : limit < byteSize value.write) :
    value.truncate limit = value.abridged limit :=
  if_neg (Nat.not_le_of_lt exceeds)

theorem truncate_eq_self_iff :
    value.truncate limit = value ↔
      byteSize value.write ≤ limit ∨ value = value.abridged limit := by
  rcases Nat.lt_or_ge limit (byteSize value.write) with exceeds | fits
  · rw [truncate_of_exceeds exceeds, or_iff_right (Nat.not_le_of_lt exceeds)]
    exact eq_comm
  · exact iff_of_true (truncate_of_fits fits) (.inl fits)

theorem cut_isLongestStart (limit : Nat) (value : Json) :
    IsLongestStart (limit - 3) value.write (value.cut limit).start :=
  Cut.start_backFrom_isLongestStart _ _

theorem byteSize_abridged (limit : Nat) (value : Json) :
    byteSize ((value.cut limit).start ++ ['.', '.', '.']) ≤ max limit 3 := by
  have fits : byteSize (value.cut limit).start ≤ limit - 3 := (cut_isLongestStart limit value).fits
  have dots : byteSize ['.', '.', '.'] = 3 := rfl
  rw [byteSize_append, dots]
  omega

/-- A value is kept if the bytes of its text are within the limit. Otherwise it becomes the string
of three dots after the longest start of the text that has three bytes less than the limit, or none;
the bytes of the text are cut within them and between two characters. So it stays the same also
where it is that string already. -/
theorem truncate_exact (limit : Nat) (value : Json) :
    value.render.toByteArray = (bytes value.write).toByteArray ∧
      value.truncate limit =
        (if (bytes value.write).length ≤ limit then value
        else .string (String.ofList ((value.cut limit).start ++ ['.', '.', '.']))) ∧
      (value.truncate limit = value ↔
        (bytes value.write).length ≤ limit ∨
          value = .string (String.ofList ((value.cut limit).start ++ ['.', '.', '.']))) ∧
      IsLongestStart (limit - 3) value.write (value.cut limit).start ∧
      (value.cut limit).offset ≤ (bytes value.write).length ∧
      isBoundary (bytes value.write) (value.cut limit).offset = true ∧
      bytes (value.cut limit).start = (bytes value.write).take (value.cut limit).offset ∧
      (bytes ((value.cut limit).start ++ ['.', '.', '.'])).length ≤ max limit 3 := by
  refine ⟨toByteArray_ofList _, ?_, ?_, cut_isLongestStart limit value, (value.cut limit).offset_le,
    (value.cut limit).isBoundary, (value.cut limit).bytes_start, ?_⟩
  · rw [length_bytes]
    rfl
  · rw [length_bytes]
    exact truncate_eq_self_iff
  · rw [length_bytes]
    exact byteSize_abridged limit value

/-- A string of three dots has five bytes with its quotes, and is cut to three dots. -/
theorem truncate_dots_eq_self :
    (bytes (Json.string "...").write).length = 5 ∧
      (Json.string "...").truncate 3 = .string "..." ∧
      ¬ ∀ (limit : Nat) (value : Json),
        value.truncate limit = value ↔ (bytes value.write).length ≤ limit := by
  have size : (bytes (Json.string "...").write).length = 5 := by decide +kernel
  have same : (Json.string "...").truncate 3 = .string "..." := by
    rw [truncate_of_exceeds (by rw [← length_bytes, size]; decide), abridged]
    rfl
  refine ⟨size, same, fun kept => ?_⟩
  have fits := (kept 3 (.string "...")).1 same
  rw [size] at fits
  exact absurd fits (by decide)

/-- A cut text is written with its quotes and with a backslash for each mark that is left of it. -/
theorem byteSize_write_of_exceeds (exceeds : limit < byteSize value.write) :
    byteSize (value.truncate limit).write =
      byteSize (value.cut limit).start + marks (value.cut limit).start + 5 := by
  obtain ⟨rest, whole⟩ := (cut_isLongestStart limit value).isPrefix
  have line : IsLine ((value.cut limit).start ++ ['.', '.', '.']) := by
    have shown : IsLine ((value.cut limit).start ++ rest) := by
      rw [whole]
      exact isLine_write value
    have start : IsLine (value.cut limit).start := fun c member =>
      shown c (List.mem_append_left rest member)
    exact start.append (by decide)
  have dots : byteSize ['.', '.', '.'] = 3 ∧ marks ['.', '.', '.'] = 0 := ⟨rfl, rfl⟩
  rw [truncate_of_exceeds exceeds, abridged, write, byteSize_writeString line, byteSize_append,
    marks_append, dots.1, dots.2]
  omega

theorem byteSize_write_truncate_le (limit : Nat) (value : Json) :
    byteSize (value.truncate limit).write ≤ 2 * max limit 3 - 1 := by
  rcases Nat.lt_or_ge limit (byteSize value.write) with exceeds | fits
  · have start := (cut_isLongestStart limit value).fits
    have marked := marks_le_byteSize (value.cut limit).start
    rw [byteSize_write_of_exceeds exceeds]
    omega
  · rw [truncate_of_fits fits]
    omega

def quotes (count : Nat) : Json :=
  .string (String.ofList (List.replicate count '"'))

theorem isMark_of_mem_quotes {count : Nat} {c : Char} (member : c ∈ (quotes count).write) :
    isMark c = true := by
  have escaped : ∀ other ∈ escapedChar '"', isMark other = true := List.all_eq_true.1 rfl
  rw [quotes, write, writeString, String.toList_ofList] at member
  rcases List.mem_cons.1 member with rfl | member
  · rfl
  rcases List.mem_append.1 member with member | member
  · obtain ⟨quote, repeated, written⟩ := List.mem_flatMap.1 member
    obtain rfl := List.eq_of_mem_replicate repeated
    exact escaped c written
  · rw [List.mem_singleton.1 member]
    rfl

theorem byteSize_eq_length {text : List Char} (marked : ∀ c ∈ text, isMark c = true) :
    byteSize text = text.length := by
  induction text with
  | nil => rfl
  | cons c rest ih =>
    obtain ⟨mark, marked⟩ := List.forall_mem_cons.1 marked
    have narrow : c.utf8Size = 1 := by
      rcases Bool.or_eq_true_iff.1 mark with quote | backslash
      · rw [of_decide_eq_true quote]
        rfl
      · rw [of_decide_eq_true backslash]
        rfl
    rw [byteSize_cons, narrow, ih marked, List.length_cons, Nat.add_comm]

theorem length_write_quotes (count : Nat) : (quotes count).write.length = 2 * count + 2 := by
  rw [quotes, write, writeString, String.toList_ofList, List.length_cons, List.length_append,
    List.length_flatMap, List.map_replicate, List.sum_replicate_nat]
  simp [escapedChar]
  omega

theorem byteSize_write_quotes (limit : Nat) :
    byteSize ((quotes (max limit 3)).truncate limit).write = 2 * max limit 3 - 1 := by
  have marked {front : List Char} (isPrefix : front <+: (quotes (max limit 3)).write) :
      ∀ c ∈ front, isMark c = true :=
    fun c member => isMark_of_mem_quotes (isPrefix.subset member)
  have exceeds : limit < byteSize (quotes (max limit 3)).write := by
    rw [byteSize_eq_length (marked List.prefix_rfl), length_write_quotes]
    omega
  obtain ⟨isPrefix, fits, longest⟩ := cut_isLongestStart limit (quotes (max limit 3))
  -- As many characters as there is room for are a start, since each has one byte.
  have filled : limit - 3 ≤ byteSize ((quotes (max limit 3)).cut limit).start := by
    have front : (quotes (max limit 3)).write.take (limit - 3) <+: (quotes (max limit 3)).write :=
      List.take_prefix _ _
    have size : byteSize ((quotes (max limit 3)).write.take (limit - 3)) = limit - 3 := by
      rw [byteSize_eq_length (marked front), List.length_take, length_write_quotes]
      omega
    exact size.symm.le.trans (byteSize_le_of_isPrefix (longest _ front size.le))
  have all : marks ((quotes (max limit 3)).cut limit).start =
      byteSize ((quotes (max limit 3)).cut limit).start := by
    rw [byteSize_eq_length (marked isPrefix)]
    exact List.countP_eq_length.2 (marked isPrefix)
  rw [byteSize_write_of_exceeds exceeds, all]
  omega

end Json

namespace LogRecord

theorem line_eq (limit : Nat) (record : LogRecord) :
    (record.line limit).toList =
      "\x7b\"level\":".toList ++ Json.writeString record.level ++
        ",\"event_type\":".toList ++ Json.writeString record.name ++
          ",\"payload\":".toList ++ (record.payload.truncate limit).write ++ "\x7d".toList := by
  simp [line, truncate, json, Json.render, Json.write, Json.writeMembers, Json.writeString,
    Json.escapedChar]

/-- What a line holds for its payload has the size of the payload's text where that is within the
limit. Where it is not, the quotes, the dots and a backslash for each quote and backslash come to
what is left of the text. So it is within the limit only if the text is or these have room too; it
has less than twice as many bytes as the limit, or three, and some payload needs all of them. -/
theorem payload_size (limit : Nat) (record : LogRecord) :
    (∃ front, (record.line limit).toList =
      front ++ ",\"payload\":".toList ++ (record.payload.truncate limit).write ++
        "\x7d".toList) ∧
      IsLongestStart (limit - 3) record.payload.write (record.payload.cut limit).start ∧
      byteSize (record.payload.truncate limit).write =
        (if byteSize record.payload.write ≤ limit then byteSize record.payload.write
        else byteSize (record.payload.cut limit).start +
          marks (record.payload.cut limit).start + 5) ∧
      (byteSize (record.payload.truncate limit).write ≤ limit ↔
        byteSize record.payload.write ≤ limit ∨
          byteSize (record.payload.cut limit).start +
            marks (record.payload.cut limit).start + 5 ≤ limit) ∧
      byteSize (record.payload.truncate limit).write ≤ 2 * max limit 3 - 1 ∧
      ∃ payload : Json, byteSize (payload.truncate limit).write = 2 * max limit 3 - 1 := by
  refine ⟨⟨_, line_eq limit record⟩, Json.cut_isLongestStart limit record.payload, ?_, ?_,
    Json.byteSize_write_truncate_le limit record.payload, _, Json.byteSize_write_quotes limit⟩
  · split
    · rename_i fits
      rw [Json.truncate_of_fits fits]
    · rename_i exceeds
      exact Json.byteSize_write_of_exceeds (Nat.lt_of_not_le exceeds)
  · rcases Nat.lt_or_ge limit (byteSize record.payload.write) with exceeds | fits
    · rw [Json.byteSize_write_of_exceeds exceeds, or_iff_right (Nat.not_le_of_lt exceeds)]
    · rw [Json.truncate_of_fits fits, iff_true_right (.inl fits)]
      exact fits

/-- Six letters, which are eight bytes with their quotes, are written in eight bytes under a limit
of five too. -/
theorem payload_exceeds_limit :
    ((⟨"info", "e", .string "aaaaaa"⟩ : LogRecord).line 5).toList =
        "\x7b\"level\":\"info\",\"event_type\":\"e\",\"payload\":".toList ++
          ((Json.string "aaaaaa").truncate 5).write ++ "\x7d".toList ∧
      ((Json.string "aaaaaa").truncate 5).write = "\"\\\"a...\"".toList ∧
      ¬ ∀ limit ≥ 5, ∀ payload : Json, byteSize (payload.truncate limit).write ≤ limit := by
  have written : ((Json.string "aaaaaa").truncate 5).write = "\"\\\"a...\"".toList := by
    decide +kernel
  refine ⟨line_eq 5 _, written, fun bounded => ?_⟩
  have within := bounded 5 (le_refl 5) (.string "aaaaaa")
  rw [written] at within
  exact absurd within (by decide)

end LogRecord

end TransportSeams
