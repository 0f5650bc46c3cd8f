import Sm83Cost.Text.Blank
import Sm83Cost.Text.Digit
import Sm83Cost.Text.Quoted

/-!
# Numerals

Numbers are unbounded, but a decimal numeral is not: one of more than 4300
digits is neither read nor written.  Binary, octal and hexadecimal numerals have
no such limit, so a number may well exist that cannot be shown in decimal.

A numeral read here may have blanks around it, a sign, the mark of its own base
(`0x`, `0o` or `0b`) and single underscores between its digits, and its digits
may come from any script.
-/

namespace Sm83Cost.Numeral

set_option autoImplicit false

/-- The most digits of a decimal numeral. -/
def decimalLimit : Nat := 4300

/-- The least number whose decimal numeral is too long. -/
def decimalBound : Nat := Nat.pow 10 decimalLimit

/-- Why a number was not read or not written. -/
inductive Error where
  /-- A decimal numeral with that many digits was to be read. -/
  | tooManyDigits (count : Nat)
  /-- A number at or beyond the bound was to be written in decimal. -/
  | tooLongToWrite
  /-- The text is no decimal numeral. -/
  | malformed (text : Text)
deriving DecidableEq, Repr

/-! ## Writing -/

/-- The decimal digits of a number. -/
def decimal (n : Nat) : Text :=
  Nat.toDigits 10 n

/-- The decimal numeral of an integer of any size. -/
def signed (n : Int) : Text :=
  if n < 0 then '-' :: decimal n.natAbs else decimal n.natAbs

/-- The decimal numeral of an integer, unless it is too long. -/
def write (n : Int) : Except Error Text :=
  if n.natAbs < decimalBound then .ok (signed n) else .error .tooLongToWrite

/-- The hexadecimal numeral in capitals, with the sign counted in the width to fill. -/
def hex (width : Nat) (n : Int) : Text :=
  let digits := (Nat.toDigits 16 n.natAbs).map Char.toUpper
  if n < 0 then '-' :: digits.leftpad (width - 1) '0' else digits.leftpad width '0'

/-! ## Reading -/

/-- The value of a digit in a base up to sixteen. -/
def digit? (base : Nat) (c : Char) : Option Nat :=
  let value? :=
    if 'a' ≤ c && c ≤ 'f' then some (c.toNat - 'a'.toNat + 10)
    else if 'A' ≤ c && c ≤ 'F' then some (c.toNat - 'A'.toNat + 10)
    else Text.decimalDigit? c
  value?.filter (· < base)

/-- The number with the given digits, the most significant first. -/
def ofDigits (base : Nat) (digits : List Nat) : Nat :=
  digits.foldl (fun value digit => value * base + digit) 0

/-- The digits of a text in which single underscores may stand between them; `needed` tells
that a digit has to come next. -/
def digitsFrom? (base : Nat) : (needed : Bool) → Text → Option (List Nat)
  | needed, [] => if needed then none else some []
  | needed, c :: rest =>
    if c = '_' then
      if needed then none else digitsFrom? base true rest
    else do
      let first ← digit? base c
      let others ← digitsFrom? base false rest
      return first :: others

/-- A blank that may surround a numeral: any but the information separators. -/
def isPadding (c : Char) : Bool :=
  Text.isBlank c && !(0x1C ≤ c.toNat && c.toNat < 0x20)

/-- The letter that marks a base after a leading zero. -/
def baseLetter (base : Nat) : Option Char :=
  match base with
  | 2 => some 'b'
  | 8 => some 'o'
  | 16 => some 'x'
  | _ => none

/-- Drops the mark of the base and one underscore behind it.  The zero of the mark may come from
any script. -/
def dropBaseMark (base : Nat) : Text → Text
  | zero :: letter :: rest =>
    if Text.decimalDigit? zero = some 0 ∧ baseLetter base = some letter.toLower then
      match rest with
      | '_' :: digits => digits
      | digits => digits
    else zero :: letter :: rest
  | text => text

/-- The number that an unsigned numeral stands for. -/
def unsigned? (base : Nat) (text : Text) : Option Nat := do
  let digits ← digitsFrom? base true (dropBaseMark base text)
  if base = 10 ∧ decimalLimit < digits.length then none else some (ofDigits base digits)

/-- The number that a whole text stands for in the given base. -/
def read? (base : Nat) (text : Text) : Option Int :=
  match Text.dropAround isPadding text with
  | '+' :: rest => (unsigned? base rest).map Int.ofNat
  | '-' :: rest => (unsigned? base rest).map fun value => -(value : Int)
  | rest => (unsigned? base rest).map Int.ofNat

/-- The number with the given decimal digits, unless there are too many. -/
def ofDecimal (digits : List Nat) : Except Error Nat :=
  if decimalLimit < digits.length then .error (.tooManyDigits digits.length)
  else .ok (ofDigits 10 digits)

/-- The number written by a text of digits in the wide sense.  Digits up to the first
ornamental one are counted before the text as a whole is judged. -/
def ofDigitText (text : Text) : Except Error Nat := do
  let leading := text.takeWhile Text.isDecimal
  let value ← ofDecimal (leading.filterMap Text.decimalDigit?)
  if leading.isEmpty || leading.length < text.length then .error (.malformed text)
  return value

/-! ## Messages -/

/-- The text of an error. -/
def Error.message : Error → Text
  | .tooManyDigits count =>
    "Exceeds the limit (4300 digits) for integer string conversion: value has "
      ++ decimal count ++ " digits; use sys.set_int_max_str_digits() to increase the limit"
  | .tooLongToWrite =>
    "Exceeds the limit (4300 digits) for integer string conversion; "
      ++ "use sys.set_int_max_str_digits() to increase the limit"
  | .malformed text => "invalid literal for int() with base 10: " ++ (Text.quoted text).take 200

end Sm83Cost.Numeral
