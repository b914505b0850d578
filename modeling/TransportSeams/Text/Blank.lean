/-!
Blank characters and trimming. A character is blank when Unicode gives it the property
`White_Space`; `trimBlank` removes the blank characters at both ends and no other.
-/

set_option autoImplicit false
set_option relaxedAutoImplicit false

namespace TransportSeams.Text

/-- The property `White_Space`, as ranges of code points. -/
def blankRanges : List (Nat × Nat) :=
  [(0x9, 0xD), (0x20, 0x20), (0x85, 0x85), (0xA0, 0xA0), (0x1680, 0x1680), (0x2000, 0x200A),
   (0x2028, 0x2029), (0x202F, 0x202F), (0x205F, 0x205F), (0x3000, 0x3000)]

def isBlank (c : Char) : Bool :=
  blankRanges.any fun (low, high) => low ≤ c.toNat && c.toNat ≤ high

def trimBlankEnd (text : List Char) : List Char :=
  (text.reverse.dropWhile isBlank).reverse

def trimBlank (text : List Char) : List Char :=
  trimBlankEnd (text.dropWhile isBlank)

end TransportSeams.Text
