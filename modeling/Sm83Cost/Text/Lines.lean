import Sm83Cost.Text.Basic

/-!
# Lines

A source file is a sequence of lines.  The three spellings of a line break are
first made one; then a line ends at a break, at a vertical tab, form feed or
information separator, and at the line and paragraph separators of Unicode.  A
terminator at the very end does not begin another line.
-/

namespace Sm83Cost.Text

set_option autoImplicit false

/-- Writes every line break, alone or paired with a carriage return, as one newline. -/
def unifyNewlines : Text → Text
  | [] => []
  | '\r' :: '\n' :: rest => '\n' :: unifyNewlines rest
  | c :: rest => (if c = '\r' then '\n' else c) :: unifyNewlines rest

/-- A character that ends a line. -/
def endsLine (c : Char) : Bool :=
  [0x0A, 0x0B, 0x0C, 0x0D, 0x1C, 0x1D, 0x1E, 0x85, 0x2028, 0x2029].contains c.toNat

/-- The lines of a text in which a carriage return never stands before a newline. -/
def splitLines : Text → List Text
  | [] => []
  | c :: rest => if endsLine c then [] :: splitLines rest else extendFirst c (splitLines rest)

/-- The lines of a text. -/
def lines (text : Text) : List Text :=
  splitLines (unifyNewlines text)

end Sm83Cost.Text
