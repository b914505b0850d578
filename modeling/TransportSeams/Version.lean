import TransportSeams.Text.Blank
import TransportSeams.Text.Decimal
import TransportSeams.Text.Pieces

/-!
Versions of client stacks. A version is written as one to three decimal components separated by
dots, with blank characters around it and a suffix from the first `-` or `+` on ignored. Components
that are not written are zero.
-/

set_option autoImplicit false
set_option relaxedAutoImplicit false

namespace TransportSeams

structure BackendVersion where
  major : UInt32
  minor : UInt32
  patch : UInt32
deriving DecidableEq, Repr

/-- Why a text is no version; the text is the whole one, as it was given. -/
inductive VersionFault where
  | empty
  | surplusComponent (text : String)
  | notNumeric (text : String)
deriving DecidableEq, Repr

namespace VersionFault

def message : VersionFault → String
  | empty => "empty version"
  | surplusComponent text => "version `" ++ text ++ "` has too many components"
  | notNumeric text => "version `" ++ text ++ "` is not numeric"

end VersionFault

namespace BackendVersion

def text (version : BackendVersion) : String :=
  s!"{version.major.toNat}.{version.minor.toNat}.{version.patch.toNat}"

/-- Lexicographic order of the components. -/
def compare (a b : BackendVersion) : Ordering :=
  (Ord.compare a.major.toNat b.major.toNat).then
    ((Ord.compare a.minor.toNat b.minor.toNat).then (Ord.compare a.patch.toNat b.patch.toNat))

def isBefore (a b : BackendVersion) : Bool :=
  a.compare b = .lt

/-- The part of a written version that counts. -/
def core (text : String) : List Char :=
  (Text.trimBlank text.toList).takeWhile fun c => c ≠ '-' ∧ c ≠ '+'

def component? (piece : List Char) : Option UInt32 :=
  (Text.decimal? piece).bind fun value =>
    if value < UInt32.size then some (UInt32.ofNat value) else none

/-- Reads the pieces from left to right into at most `slots` components. -/
def readComponents (text : String) :
    Nat → List (List Char) → Except VersionFault (List UInt32)
  | _, [] => .ok []
  | 0, _ :: _ => .error (.surplusComponent text)
  | slots + 1, piece :: rest =>
    match component? piece with
    | none => .error (.notNumeric text)
    | some value => (readComponents text slots rest).map (value :: ·)

def ofComponents (components : List UInt32) : BackendVersion :=
  ⟨components.getD 0 0, components.getD 1 0, components.getD 2 0⟩

def parse (text : String) : Except VersionFault BackendVersion :=
  if core text = [] then .error .empty
  else (readComponents text 3 (Text.pieces '.' (core text))).map ofComponents

end BackendVersion

end TransportSeams
