import Sm83Cost.Text.Ranges

/-!
# Blanks

The characters that separate words and are trimmed from the ends of a text: the
ASCII blanks and controls that act as separators, and the spaces of other
scripts.  Zero-width characters are not blanks.
-/

namespace Sm83Cost.Text

set_option autoImplicit false

/-- The code points of the blanks. -/
def blankRanges : Ranges := [
  (0x09, 0x0D), (0x1C, 0x20), (0x85, 0x85), (0xA0, 0xA0), (0x1680, 0x1680),
  (0x2000, 0x200A), (0x2028, 0x2029), (0x202F, 0x202F), (0x205F, 0x205F), (0x3000, 0x3000)]

/-- A character that separates words. -/
def isBlank (c : Char) : Bool :=
  blankRanges.contains c.toNat

/-- The text without the blanks at both ends. -/
def trim (text : Text) : Text :=
  dropAround isBlank text

end Sm83Cost.Text
