import Sm83Cost.Text.Basic

/-!
# Comparing without regard to case

Keywords are recognised in any case.  The dotted and the dotless `i`, the long
`s` and the Kelvin sign are taken for the letters they are variants of.
-/

namespace Sm83Cost.Text

set_option autoImplicit false

/-- The small ASCII letter that a character is a variant of, or the character itself. -/
def fold (c : Char) : Char :=
  if c.toNat = 0x130 ∨ c.toNat = 0x131 then 'i'
  else if c.toNat = 0x17F then 's'
  else if c.toNat = 0x212A then 'k'
  else c.toLower

/-- An ASCII letter or a variant of one. -/
def isLetter (c : Char) : Bool :=
  (fold c).isLower

/-- The text after a keyword, given in small letters, if it begins with it in any case. -/
def afterKeyword? : (keyword : Text) → Text → Option Text
  | [], text => some text
  | _ :: _, [] => none
  | letter :: keyword, c :: text => if fold c = letter then afterKeyword? keyword text else none

end Sm83Cost.Text
