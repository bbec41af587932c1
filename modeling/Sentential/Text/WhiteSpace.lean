import Sentential.Text.CodeRanges

/-!
# White space

The characters with the property White_Space in version 17.0 of the Unicode standard. They
separate words and are otherwise ignored. Format characters such as the zero width space are
not among them.
-/

namespace Sentential.Text

/-- The code ranges of the White_Space characters, in ascending order. -/
def whiteSpaceRanges : CodeRanges where
  ranges :=
    [(0x9, 0xD), (0x20, 0x20), (0x85, 0x85), (0xA0, 0xA0), (0x1680, 0x1680), (0x2000, 0x200A),
     (0x2028, 0x2029), (0x202F, 0x202F), (0x205F, 0x205F), (0x3000, 0x3000)]
  ordered := by decide

/-- True exactly at the White_Space characters. -/
def isWhiteSpace (c : Char) : Bool := whiteSpaceRanges.has c.toNat

end Sentential.Text
