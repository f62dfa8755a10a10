-- SUMMARY: White space: the code points that surround a token without being part of it.
import DataShape.Text.Basic
import DataShape.Text.Ranges

/-!
# White space

The code points with the bidirectional type B, S or WS or the category Zs.
-/

namespace DataShape.Text

def blankRanges : List (Nat × Nat) :=
  [
  (0x0009, 0x000D), (0x001C, 0x0020), (0x0085, 0x0085), (0x00A0, 0x00A0), (0x1680, 0x1680),
  (0x2000, 0x200A), (0x2028, 0x2029), (0x202F, 0x202F), (0x205F, 0x205F), (0x3000, 0x3000)]

end DataShape.Text

namespace DataShape

def CodePoint.isBlank (c : CodePoint) : Bool :=
  Text.inRanges c.val Text.blankRanges

end DataShape
