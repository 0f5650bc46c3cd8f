import Sm83Cost.Numeral
import Sm83Cost.Operand

/-!
# Opcode entries

One entry describes one encoding of an instruction: its opcode byte, its size in
bytes, how many clock cycles it takes and what it does to the four flags.  An
instruction that may branch takes one number of cycles when it does and another
when it does not, the former listed first.
-/

namespace Sm83Cost

set_option autoImplicit false

/-- Clock cycles of an instruction or of a whole block: one number, or the number for a branch
that is taken followed by that for one that is not.  What is made by hand may list no number at
all, and then has no cycles to ask for. -/
structure Cycles where
  numbers : List Int
deriving DecidableEq, Repr

namespace Cycles

/-- The same cycles in any case. -/
def fixed (cycles : Int) : Cycles := ⟨[cycles]⟩

/-- The cycles of a branch. -/
def branch (taken untaken : Int) : Cycles := ⟨[taken, untaken]⟩

/-- The most cycles, those of a branch that is taken: the first number. -/
def most? (cycles : Cycles) : Option Int :=
  cycles.numbers.head?

/-- The fewest cycles: the last number. -/
def fewest? (cycles : Cycles) : Option Int :=
  cycles.numbers.getLast?

/-- The most and the fewest cycles. -/
def bounds? (cycles : Cycles) : Option (Int × Int) :=
  match cycles.most?, cycles.fewest? with
  | some most, some fewest => some (most, fewest)
  | _, _ => none

/-- The cycles of a branch that is not taken: the second number, or else the only one. -/
def untaken? (cycles : Cycles) : Option Int :=
  match cycles.numbers with
  | _ :: second :: _ => some second
  | other => other.head?

/-- More than one number is listed. -/
def isConditional (cycles : Cycles) : Bool :=
  1 < cycles.numbers.length

/-- The cycles of an instruction under the given assumption on branches. -/
def select? (taken : Bool) (cycles : Cycles) : Option Int :=
  if taken then cycles.most? else cycles.untaken?

/-- One number when the two totals agree, otherwise both. -/
def ofTotals (most fewest : Int) : Cycles :=
  if most = fewest then fixed most else branch most fewest

@[simp]
theorem most?_ofTotals (most fewest : Int) : (ofTotals most fewest).most? = some most := by
  rw [ofTotals]
  split <;> rfl

@[simp]
theorem fewest?_ofTotals (most fewest : Int) : (ofTotals most fewest).fewest? = some fewest := by
  rw [ofTotals]
  split
  · rename_i same
    rw [same]
    rfl
  · rfl

@[simp]
theorem bounds?_ofTotals (most fewest : Int) :
    (ofTotals most fewest).bounds? = some (most, fewest) := by
  simp [bounds?]

/-- Both bounds are known exactly when each of them is. -/
theorem bounds?_eq_some {cycles : Cycles} {most fewest : Int} :
    cycles.bounds? = some (most, fewest) ↔
      cycles.most? = some most ∧ cycles.fewest? = some fewest := by
  unfold bounds?
  cases cycles.most? <;> cases cycles.fewest? <;> simp

end Cycles

/-- What an instruction does to each flag: nothing (`-`), reset, set, or the letter of the flag
for one that depends on the result. -/
structure Flags where
  zero : Char
  subtract : Char
  halfCarry : Char
  carry : Char
deriving DecidableEq, Repr

/-- The flags spelled out. -/
def Flags.text (flags : Flags) : Text :=
  "Z:" ++ [flags.zero] ++ " N:" ++ [flags.subtract] ++ " H:" ++ [flags.halfCarry]
    ++ " C:" ++ [flags.carry]

namespace Opcode

/-- The key of a form of an instruction: its mnemonic in capitals, then its operands. -/
def keyOf (mnemonic operands : Text) : Text :=
  if operands.isEmpty then mnemonic else mnemonic ++ ' ' :: operands

/-- The key under which the table lists a mnemonic with operands in table spelling. -/
def tableKey (mnemonic : Text) (operands : List Text) : Text :=
  keyOf (Text.upper mnemonic) (Text.joined "," (operands.map Operand.memoryForm))

/-- One encoding of an instruction.  An extended entry lives in the table reached through the
prefix byte `CB`. -/
structure Entry where
  opcode : Int
  mnemonic : Text
  size : Int
  cycles : Cycles
  flags : Flags
  operands : List Text
  extended : Bool := false
deriving DecidableEq, Repr

namespace Entry

/-- The key of an entry. -/
def key (entry : Entry) : Text :=
  tableKey entry.mnemonic entry.operands

/-- The bytes of the opcode in hexadecimal. -/
def hex (entry : Entry) : Text :=
  if entry.extended then "CB " ++ Numeral.hex 2 entry.opcode else Numeral.hex 2 entry.opcode

end Entry

end Opcode

end Sm83Cost
