/-!
Cutting a text at a separator. `pieces sep text` has one piece more than `text` has separators,
and joining the pieces with the separator gives the text back.
-/

set_option autoImplicit false
set_option relaxedAutoImplicit false

namespace TransportSeams.Text

def pieces (sep : Char) : List Char → List (List Char)
  | [] => [[]]
  | c :: rest =>
    if c = sep then [] :: pieces sep rest
    else match pieces sep rest with
      | [] => [[c]]
      | piece :: others => (c :: piece) :: others

theorem pieces_ne_nil (sep : Char) (text : List Char) : pieces sep text ≠ [] := by
  cases text with
  | nil => simp [pieces]
  | cons c rest =>
    simp only [pieces]
    split
    · simp
    · split <;> simp

def join (sep : List Char) : List (List Char) → List Char
  | [] => []
  | [piece] => piece
  | piece :: next :: others => piece ++ sep ++ join sep (next :: others)

theorem join_cons {sep piece : List Char} {others : List (List Char)} (h : others ≠ []) :
    join sep (piece :: others) = piece ++ sep ++ join sep others := by
  cases others with
  | nil => exact absurd rfl h
  | cons next rest => rfl

theorem join_pieces (sep : Char) (text : List Char) : join [sep] (pieces sep text) = text := by
  induction text with
  | nil => rfl
  | cons c rest ih =>
    by_cases hc : c = sep
    · subst hc
      rw [pieces, if_pos rfl, join_cons (pieces_ne_nil c rest), ih]
      rfl
    · cases hp : pieces sep rest with
      | nil => exact absurd hp (pieces_ne_nil sep rest)
      | cons piece others =>
        rw [hp] at ih
        simp only [pieces, if_neg hc, hp]
        cases others with
        | nil => simpa [join] using ih
        | cons next tail => simpa [join] using ih

end TransportSeams.Text
