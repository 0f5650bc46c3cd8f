import Sm83Cost.Text.Printable

/-!
# Quoted text

Messages show a text between quotes, with escapes for what would not be seen.
Single quotes are used unless the text holds one and no double quote.
-/

namespace Sm83Cost.Text

set_option autoImplicit false

/-- The hexadecimal digits of a number, in small letters, filled up with zeros. -/
def hexPadded (width value : Nat) : Text :=
  (Nat.toDigits 16 value).leftpad width '0'

/-- How one character is shown inside the given quotes. -/
def escaped (mark c : Char) : Text :=
  if c = '\\' || c = mark then ['\\', c]
  else if c = '\n' then "\\n"
  else if c = '\r' then "\\r"
  else if c = '\t' then "\\t"
  else if isPrintable c then [c]
  else if c.toNat < 0x100 then "\\x" ++ hexPadded 2 c.toNat
  else if c.toNat < 0x10000 then "\\u" ++ hexPadded 4 c.toNat
  else "\\U" ++ hexPadded 8 c.toNat

/-- The quote that a text is shown between. -/
def quoteMark (text : Text) : Char :=
  if text.contains '\'' && !text.contains '"' then '"' else '\''

/-- The text between quotes. -/
def quoted (text : Text) : Text :=
  quoteMark text :: text.flatMap (escaped (quoteMark text)) ++ [quoteMark text]

end Sm83Cost.Text
