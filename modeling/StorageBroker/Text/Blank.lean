/-! # Blank text

The characters with the Unicode property White_Space, and the texts made of nothing else. -/

set_option autoImplicit false

namespace StorageBroker.Text

/-- The ranges of code points with the property White_Space, ascending. -/
def whiteSpaceRanges : List (Nat × Nat) :=
  [(0x09, 0x0D), (0x20, 0x20), (0x85, 0x85), (0xA0, 0xA0), (0x1680, 0x1680), (0x2000, 0x200A),
   (0x2028, 0x2029), (0x202F, 0x202F), (0x205F, 0x205F), (0x3000, 0x3000)]

def isWhiteSpace (c : Char) : Bool :=
  whiteSpaceRanges.any fun range => range.1 ≤ c.toNat && c.toNat ≤ range.2

/-- Whether nothing is left of a text once white space at its ends is dropped. -/
def isBlank (s : String) : Bool := s.toList.all isWhiteSpace

@[simp]
theorem isBlank_empty : isBlank "" = true := rfl

end StorageBroker.Text
