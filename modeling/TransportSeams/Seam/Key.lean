import TransportSeams.KeyMap

/-!
Seam keys: the member of a target that a client stack looks up when it is used. Keys are ordered
by target, then by member.
-/

set_option autoImplicit false
set_option relaxedAutoImplicit false

namespace TransportSeams

structure SeamKey where
  target : String
  member : String
deriving DecidableEq, Repr

namespace SeamKey

def text (key : SeamKey) : String :=
  key.target ++ "." ++ key.member

def isBefore (a b : SeamKey) : Bool :=
  a.target < b.target || (a.target == b.target && a.member < b.member)

instance : KeyOrder SeamKey where
  before := isBefore
  irrefl a := by simp [isBefore]
  trans := by
    intro a b c hab hbc
    simp only [isBefore, Bool.or_eq_true, decide_eq_true_eq, Bool.and_eq_true, beq_iff_eq] at *
    rcases hab with hab | ⟨hab, hab'⟩ <;> rcases hbc with hbc | ⟨hbc, hbc'⟩
    · exact .inl (String.lt_trans hab hbc)
    · exact .inl (hbc ▸ hab)
    · exact .inl (hab ▸ hbc)
    · exact .inr ⟨hab.trans hbc, String.lt_trans hab' hbc'⟩
  connected := by
    intro a b hab hba
    simp only [isBefore, Bool.or_eq_false_iff, decide_eq_false_iff_not, Bool.and_eq_false_iff,
      beq_eq_false_iff_ne, String.not_lt] at hab hba
    have htarget : a.target = b.target := String.le_antisymm hba.1 hab.1
    have hmember : a.member = b.member :=
      String.le_antisymm (hba.2.resolve_left fun h => h htarget.symm)
        (hab.2.resolve_left fun h => h htarget)
    cases a
    cases b
    simp_all

end SeamKey

end TransportSeams
