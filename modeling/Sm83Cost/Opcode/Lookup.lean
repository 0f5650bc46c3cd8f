import Sm83Cost.Opcode.Table
import Sm83Cost.Literal

/-!
# Finding an instruction

An instruction of the source is found by the key that its mnemonic and the forms
of its operands give.  Where that key is not in the table, the operand forms are
replaced one after another by the forms they may also stand for, in a fixed
order, and the first key that is in the table decides.

Two kinds of instruction are found by the value of an operand: a restart names
its vector, and a bit instruction its bit.
-/

namespace Sm83Cost.Opcode

set_option autoImplicit false

/-- Forms of memory operands that a memory operand may also stand for. -/
def memoryForms : List Text := ["[A8]", "[A16]", "[HL]"]

/-- Forms that any operand may also stand for, in order of preference. -/
def anyForms : List Text := ["D8", "D16", "A16", "R8", "[A8]", "[A16]", "[HL]"]

/-- The forms that an operand may also stand for: an access to memory stays one. -/
def substitutes (form : Text) : List Text :=
  if form.head? = some '[' then memoryForms else anyForms

/-- The restart vector that an operand names, as the table writes it. -/
def restartVector? (operand : Text) : Option Text :=
  (Literal.value? operand).bind fun value =>
    if value ≤ 0x38 ∧ value % 8 = 0 then some (Numeral.hex 2 value ++ "H") else none

/-- The bit that an operand names by a number from zero to seven. -/
def literalBit? (operand : Text) : Option Nat :=
  (Literal.value? operand).bind fun value =>
    if 0 ≤ value ∧ value ≤ 7 then some value.toNat else none

/-- The mnemonic belongs to an instruction behind the prefix byte. -/
def isExtended (mnemonic : Text) : Bool :=
  extendedMnemonics.contains (Text.upper mnemonic)

/-- A mnemonic and operands, with a blank between them in any case. -/
def spaced (mnemonic operands : Text) : Text :=
  mnemonic ++ ' ' :: operands

/-- The keys to try for an unprefixed instruction whose own key is unknown, in order. -/
def candidates (mnemonic : Text) (forms : List Text) : List Text :=
  match forms with
  | [] => [mnemonic]
  | [form] => (form :: substitutes form).map (spaced mnemonic)
  | [first, second] =>
    (second :: (substitutes second).filter (· != ("[HL]" : Text))).map
        (fun other => spaced mnemonic (first ++ ',' :: other))
      ++ [spaced mnemonic ("[A8]," ++ second), spaced mnemonic ("[A16]," ++ second),
          spaced mnemonic "[HL],D8"]
      ++ (if first = "HL" && Text.includes "SP" second then [spaced mnemonic "HL,SP+R8"] else [])
  | _ => []

/-- The bits to try for a bit instruction: the one named first, then all in order. -/
def bitsToTry (operand : Text) : List Nat :=
  (literalBit? operand).toList ++ List.range 8

/-- The keys to try for an extended instruction, in order. -/
def extendedCandidates (mnemonic : Text) (operands forms : List Text) : List Text :=
  keyOf mnemonic (Text.joined "," forms) ::
    match operands, forms with
    | [bit, _], [_, register] =>
      if bitInstructions.contains mnemonic then
        (bitsToTry bit).map fun n => spaced mnemonic (Numeral.decimal n ++ ',' :: register)
      else []
    | [_], [register] => [spaced mnemonic register]
    | _, _ => []

/-- The vector of a restart whose only operand names one. -/
def restartOf? (mnemonic : Text) (operands : List Text) : Option Text :=
  match operands with
  | [operand] => if mnemonic = "RST" then restartVector? operand else none
  | _ => none

namespace Table

/-- The entry for a mnemonic in capitals, with the operands as written and their forms. -/
def find? (table : Table) (mnemonic : Text) (operands forms : List Text) : Option Entry :=
  if extendedMnemonics.contains mnemonic then
    (extendedCandidates mnemonic operands forms).findSome? table.getExtended?
  else match restartOf? mnemonic operands with
    | some vector => table.get? (spaced "RST" vector)
    | none =>
      (keyOf mnemonic (Text.joined "," forms) :: candidates mnemonic forms).findSome? table.get?

/-- The entry for an instruction as written; none when its cost is unknown. -/
def lookup (table : Table) (mnemonic : Text) (operands : List Text) :
    Except Numeral.Error (Option Entry) := do
  let forms ← operands.mapM Operand.form
  return table.find? (Text.upper mnemonic) operands forms

end Table

end Sm83Cost.Opcode
