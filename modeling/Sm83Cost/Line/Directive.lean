import Sm83Cost.Line.Nesting
import Sm83Cost.Literal

/-!
# Directives

Directives speak to the assembler.  The data directives put bytes into the
program, and their number can be told from the operands: one for each item of
`DB`, where a quoted string counts its characters; two for each item of `DW` and
four of `DL`; and for `DS` as many as its first item says.  All other directives
cost nothing.
-/

namespace Sm83Cost.Line

set_option autoImplicit false

/-- The directives that put bytes into the program. -/
def dataDirectives : List Text := ["DB", "DW", "DL", "DS"]

/-- The directives that cost nothing. -/
def otherDirectives : List Text := [
  "SECTION", "INCLUDE", "INCBIN", "EQU", "SET", "EQUS", "MACRO", "ENDM",
  "IF", "ELSE", "ELIF", "ENDC", "REPT", "ENDR", "EXPORT", "GLOBAL",
  "PURGE", "OPT", "PUSHO", "POPO", "PUSHS", "POPS", "FAIL", "WARN",
  "ASSERT", "STATIC_ASSERT"]

/-- The number of bytes of one item of `DB`: the characters of a string in double quotes, and
one byte for anything else. -/
def byteCount (item : Text) : Nat :=
  if 2 ≤ item.length ∧ item.head? = some '"' ∧ item.getLast? = some '"' then item.length - 2
  else 1

/-- The number of bytes that a data directive in capitals puts down for its items. -/
def itemBytes (directive : Text) (items : List Text) : Except Numeral.Error Nat :=
  match items with
  | [] => .ok 0
  | first :: _ =>
    if directive = "DB" then .ok ((items.map byteCount).foldr (· + ·) 0)
    else if directive = "DW" then .ok (items.length * 2)
    else if directive = "DL" then .ok (items.length * 4)
    else if directive = "DS" then Literal.leading first
    else .ok 0

/-- The number of bytes that a directive puts down; none for a directive without data. -/
def directiveBytes (directive operandText : Text) : Except Numeral.Error Nat :=
  itemBytes (Text.upper directive) (splitOperands operandText)

end Sm83Cost.Line
