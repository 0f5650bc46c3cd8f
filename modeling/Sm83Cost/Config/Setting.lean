import Sm83Cost.Numeral

/-!
# Values of settings

A host hands over settings whose values may be of any shape, and a message shows
the value that could not be used.  Fractions are shown with the digits they were
given with: positionally from a ten-thousandth up to sixteen digits before the
point, and with an exponent beyond.
-/

namespace Sm83Cost

set_option autoImplicit false

/-- A value as a host may give it.  A fraction is `mantissa · 10 ^ exponent` under its sign, which
zero keeps too. -/
inductive Setting where
  | null
  | flag (value : Bool)
  | integer (value : Int)
  | fraction (negative : Bool) (mantissa : Nat) (exponent : Int)
  | infinite (negative : Bool)
  | notANumber
  | text (value : Text)
  | list (items : List Setting)
  | mapping (pairs : List (Text × Setting))
deriving Inhabited

namespace Setting

/-! ## Fractions -/

/-- A nonnegative fraction given by its significant digits and the position of the point, as a
count of digits before it. -/
def positional (digits : Text) (point : Int) : Text :=
  if point ≤ 0 then "0." ++ List.replicate (-point).toNat '0' ++ digits
  else if (digits.length : Int) ≤ point then
    digits ++ List.replicate (point.toNat - digits.length) '0' ++ ".0"
  else digits.take point.toNat ++ '.' :: digits.drop point.toNat

/-- The same with one digit before the point and an exponent of at least two digits. -/
def scientific (digits : Text) (point : Int) : Text :=
  let exponent := point - 1
  let fractional := if digits.length ≤ 1 then [] else '.' :: digits.drop 1
  digits.take 1 ++ fractional ++ ['e', if exponent < 0 then '-' else '+']
    ++ (Numeral.decimal exponent.natAbs).leftpad 2 '0'

/-- A nonnegative fraction, with its significant digits only. -/
def shownSize (mantissa : Nat) (exponent : Int) : Text :=
  let written := Numeral.decimal mantissa
  let digits := Text.dropEndWhile (· == '0') written
  let point : Int := written.length + exponent
  if digits.isEmpty then "0.0"
  else if -4 < point ∧ point ≤ 16 then positional digits point
  else scientific digits point

/-- A fraction under its sign. -/
def shownFraction (negative : Bool) (mantissa : Nat) (exponent : Int) : Text :=
  let size := shownSize mantissa exponent
  if negative then '-' :: size else size

/-! ## Showing a value -/

mutual

/-- The value as a message shows it. -/
def shown : Setting → Text
  | .null => "None"
  | .flag value => if value then "True" else "False"
  | .integer value => Numeral.signed value
  | .fraction negative mantissa exponent => shownFraction negative mantissa exponent
  | .infinite negative => if negative then "-inf" else "inf"
  | .notANumber => "nan"
  | .text value => Text.quoted value
  | .list items => "[" ++ Text.joined ", " (shownItems items) ++ "]"
  | .mapping pairs => "\x7b" ++ Text.joined ", " (shownPairs pairs) ++ "\x7d"

/-- The items of a list as a message shows them. -/
def shownItems : List Setting → List Text
  | [] => []
  | item :: rest => shown item :: shownItems rest

/-- The pairs of a mapping as a message shows them. -/
def shownPairs : List (Text × Setting) → List Text
  | [] => []
  | (key, value) :: rest => (Text.quoted key ++ ": " ++ shown value) :: shownPairs rest

end

mutual

/-- Every number in the value can be written in decimal, so that a message can show it. -/
def isWritable : Setting → Bool
  | .null => true
  | .flag _ => true
  | .integer value => decide (value.natAbs < Numeral.decimalBound)
  | .fraction _ _ _ => true
  | .infinite _ => true
  | .notANumber => true
  | .text _ => true
  | .list items => areWritable items
  | .mapping pairs => pairsAreWritable pairs

/-- Every number in the items can be written. -/
def areWritable : List Setting → Bool
  | [] => true
  | item :: rest => isWritable item && areWritable rest

/-- Every number in the values of the pairs can be written. -/
def pairsAreWritable : List (Text × Setting) → Bool
  | [] => true
  | (_, value) :: rest => isWritable value && pairsAreWritable rest

end

/-- The value as plain text: a text as it is, anything else as a message shows it. -/
def plain : Setting → Text
  | .text value => value
  | value => value.shown

/-- Values that a message is made of: none is no text, one is plain, and several stand in
parentheses. -/
def plainAll : List Setting → Text
  | [] => []
  | [value] => value.plain
  | values => "(" ++ Text.joined ", " (shownItems values) ++ ")"

/-- A value that says nothing: zero, false, or without content. -/
def isVoid : Setting → Bool
  | .null => true
  | .flag value => !value
  | .integer value => value == 0
  | .fraction _ mantissa _ => mantissa == 0
  | .infinite _ => false
  | .notANumber => false
  | .text value => value.isEmpty
  | .list items => items.isEmpty
  | .mapping pairs => pairs.isEmpty

/-- The value as plain text, unless it is void. -/
def content? (value : Setting) : Option Text :=
  if value.isVoid then none else some value.plain

/-- The name of the kind of a value, as messages show it. -/
def kindName : Setting → Text
  | .null => "NoneType"
  | .flag _ => "bool"
  | .integer _ => "int"
  | .fraction _ _ _ | .infinite _ | .notANumber => "float"
  | .text _ => "str"
  | .list _ => "list"
  | .mapping _ => "dict"

/-- The value, unless it is missing. -/
def present? : Setting → Option Setting
  | .null => none
  | value => some value

end Setting

end Sm83Cost
