import Sm83Cost.Numeral
import Sm83Cost.Text.Case

/-!
# Integer literals of assembly source

An integer is written in hexadecimal after `$` or `0x` or before `h`, in binary
after `%`, in octal after `&`, and in decimal otherwise.  A literal is read in
two ways: as a whole, where anything else around it makes it no literal, and at
the beginning of an expression, where whatever follows the digits is ignored.
-/

namespace Sm83Cost.Literal

set_option autoImplicit false

/-- The base that a literal announces at its beginning, and the text behind the mark. -/
def announced? : Text → Option (Nat × Text)
  | '$' :: rest => some (16, rest)
  | '0' :: 'X' :: rest => some (16, rest)
  | '0' :: 'x' :: rest => some (16, rest)
  | '%' :: rest => some (2, rest)
  | '&' :: rest => some (8, rest)
  | _ => none

/-- The text before a final `H`, which marks a hexadecimal literal. -/
def beforeSuffix? (text : Text) : Option Text :=
  (Text.before? "H" text).filter (!·.isEmpty)

/-- The value of a text that is an integer literal as a whole. -/
def value? (text : Text) : Option Int :=
  let capitals := Text.upper (Text.trim text)
  match announced? capitals with
  | some (base, digits) => Numeral.read? base digits
  | none =>
    match beforeSuffix? capitals with
    | some digits => Numeral.read? 16 digits
    | none => Numeral.read? 10 capitals

/-- An ASCII digit of the given base. -/
def isDigit (base : Nat) (c : Char) : Bool :=
  c.isAlphanum && (Numeral.digit? base c).isSome

/-- The values of the ASCII digits that a text begins with. -/
def leadingDigits (base : Nat) (text : Text) : List Nat :=
  (text.takeWhile (isDigit base)).filterMap (Numeral.digit? base)

/-- The number at the beginning of an expression, zero where there is none. -/
def leading (text : Text) : Except Numeral.Error Nat :=
  match announced? (Text.trim text) with
  | some (base, rest) => .ok (Numeral.ofDigits base (leadingDigits base rest))
  | none => Numeral.ofDecimal (leadingDigits 10 (Text.trim text))

end Sm83Cost.Literal
