import Packrat.Unicode.RangeTable

/-!
# Blank characters

The property White_Space, line terminators included.
-/

namespace Packrat.Unicode

/-- The ranges of the property, in ascending order. -/
def blankRanges : RangeTable := [
  (0x9, 0xD), (0x20, 0x20), (0x85, 0x85), (0xA0, 0xA0), (0x1680, 0x1680), (0x2000, 0x200A),
  (0x2028, 0x2029), (0x202F, 0x202F), (0x205F, 0x205F), (0x3000, 0x3000)]

/-- Whether a character has the property White_Space. -/
def isBlank (c : Char) : Bool :=
  blankRanges.covers c.toNat

end Packrat.Unicode
