import RouterLayer.Text.Ranges

set_option autoImplicit false

namespace RouterLayer.Text

def blankRanges : List (Nat × Nat) := [
  (0x9, 0xD), (0x1C, 0x20), (0x85, 0x85), (0xA0, 0xA0), (0x1680, 0x1680), (0x2000, 0x200A),
  (0x2028, 0x2029), (0x202F, 0x202F), (0x205F, 0x205F), (0x3000, 0x3000)]

def isBlank (c : CodePoint) : Bool := inRanges blankRanges c

def trim (drop : CodePoint → Bool) (s : Text) : Text :=
  ((s.dropWhile drop).reverse.dropWhile drop).reverse

def strip (s : Text) : Text := trim isBlank s

/-- A text of blanks only counts as blank, and so does the empty one. -/
def isBlankText (s : Text) : Bool := s.all isBlank

end RouterLayer.Text
