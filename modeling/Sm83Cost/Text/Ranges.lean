import Sm83Cost.Text.Basic

/-!
# Tables of code points

A property of characters is given by a table: the ranges of code points that
have it, in increasing order.  Looking a character up stops at the first range
that begins beyond it.
-/

namespace Sm83Cost.Text

set_option autoImplicit false

/-- Ranges of code points, both ends included, in increasing order. -/
abbrev Ranges := List (Nat × Nat)

/-- The code point lies in one of the ranges. -/
def Ranges.contains : Ranges → Nat → Bool
  | [], _ => false
  | (first, last) :: rest, code =>
    if code < first then false else code ≤ last || Ranges.contains rest code

end Sm83Cost.Text
