import Sm83Cost.Text.Basic

/-!
# Reading bytes

Source files hold UTF-8, but no byte sequence is refused: where no character can
be read, the longest beginning of one is replaced by the replacement character
and reading goes on behind it.

The reader keeps the character it is in the middle of.  The byte after the lead
byte is confined more narrowly than the others, which is what excludes overlong
forms, surrogates and code points beyond the last plane.
-/

namespace Sm83Cost.Text.Utf8

set_option autoImplicit false

/-- What is shown where no character can be read. -/
def replacement : Char := Char.ofNat 0xFFFD

/-- A character of which some bytes have been read.  Its next byte must lie between `low` and
`high`, and `missing` more bytes follow that one. -/
structure Partial where
  bits : Nat
  missing : Nat
  low : Nat := 0x80
  high : Nat := 0xBF

/-- What a byte gives at the beginning of a character: a finished character or the first part
of one. -/
def lead (byte : Nat) : Text × Option Partial :=
  if byte < 0x80 then ([Char.ofNat byte], none)
  else if byte < 0xC2 then ([replacement], none)
  else if byte < 0xE0 then ([], some { bits := byte - 0xC0, missing := 0 })
  else if byte = 0xE0 then ([], some { bits := 0, missing := 1, low := 0xA0 })
  else if byte = 0xED then ([], some { bits := 0xD, missing := 1, high := 0x9F })
  else if byte < 0xF0 then ([], some { bits := byte - 0xE0, missing := 1 })
  else if byte = 0xF0 then ([], some { bits := 0, missing := 2, low := 0x90 })
  else if byte < 0xF4 then ([], some { bits := byte - 0xF0, missing := 2 })
  else if byte = 0xF4 then ([], some { bits := 4, missing := 2, high := 0x8F })
  else ([replacement], none)

/-- Reads bytes, given the character that is under way. -/
def decodeFrom : Option Partial → List UInt8 → Text
  | none, [] => []
  | some _, [] => [replacement]
  | none, byte :: rest => (lead byte.toNat).1 ++ decodeFrom (lead byte.toNat).2 rest
  | some part, byte :: rest =>
    if part.low ≤ byte.toNat ∧ byte.toNat ≤ part.high then
      match part.missing with
      | 0 => Char.ofNat (part.bits * 64 + (byte.toNat - 0x80)) :: decodeFrom none rest
      | missing + 1 =>
        decodeFrom (some { bits := part.bits * 64 + (byte.toNat - 0x80), missing }) rest
    else replacement :: (lead byte.toNat).1 ++ decodeFrom (lead byte.toNat).2 rest

/-- The text that a sequence of bytes holds. -/
def decode (bytes : List UInt8) : Text :=
  decodeFrom none bytes

/-- The number of bytes of a character. -/
def width (c : Char) : Nat :=
  if c.toNat < 0x80 then 1 else if c.toNat < 0x800 then 2 else if c.toNat < 0x10000 then 3 else 4

/-- The number of bytes of a text. -/
def size (text : Text) : Nat :=
  (text.map width).foldr (· + ·) 0

end Sm83Cost.Text.Utf8
