import Sm83Cost.Opcode.Entry

/-!
# The instruction set

Every instruction of the processor.  The lower and the upper quarter of the
unprefixed opcodes are listed one by one.  The two quarters between them are
regular: loads between registers, and arithmetic on the accumulator, with the
operand taken from the low bits of the opcode.  So are all opcodes behind the
prefix byte: shifts and rotations, then testing, resetting and setting of bits.

Eleven unprefixed opcodes are unused, and the prefix byte is no instruction.
-/

namespace Sm83Cost.Opcode

set_option autoImplicit false

/-- No flag is touched. -/
def untouched : Flags := ⟨'-', '-', '-', '-'⟩

/-- The flags given by their four marks in order. -/
def Flags.ofMarks? : Text → Option Flags
  | [zero, subtract, halfCarry, carry] => some ⟨zero, subtract, halfCarry, carry⟩
  | _ => none

/-- An instruction that takes the same time always. -/
def plain (opcode : Int) (mnemonic : Text) (operands : List Text) (size cycles : Int)
    (marks : Text) : Entry where
  opcode := opcode
  mnemonic := mnemonic
  size := size
  cycles := .fixed cycles
  flags := (Flags.ofMarks? marks).getD untouched
  operands := operands

/-- A conditional branch, with the cycles when it is taken and when it is not. -/
def branch (opcode : Int) (mnemonic : Text) (operands : List Text) (size taken untaken : Int) :
    Entry where
  opcode := opcode
  mnemonic := mnemonic
  size := size
  cycles := .branch taken untaken
  flags := untouched
  operands := operands

/-- The operands of the regular blocks, in the order of the low bits of the opcode. -/
def registerOrder : List Text := ["B", "C", "D", "E", "H", "L", "[HL]", "A"]

/-- Opcodes 00 to 3F. -/
def lowerQuarter : List Entry := [
  plain 0x00 "NOP" [] 1 4 "----",
  plain 0x01 "LD" ["BC", "D16"] 3 12 "----",
  plain 0x02 "LD" ["[BC]", "A"] 1 8 "----",
  plain 0x03 "INC" ["BC"] 1 8 "----",
  plain 0x04 "INC" ["B"] 1 4 "Z0H-",
  plain 0x05 "DEC" ["B"] 1 4 "Z1H-",
  plain 0x06 "LD" ["B", "D8"] 2 8 "----",
  plain 0x07 "RLCA" [] 1 4 "000C",
  plain 0x08 "LD" ["[A16]", "SP"] 3 20 "----",
  plain 0x09 "ADD" ["HL", "BC"] 1 8 "-0HC",
  plain 0x0A "LD" ["A", "[BC]"] 1 8 "----",
  plain 0x0B "DEC" ["BC"] 1 8 "----",
  plain 0x0C "INC" ["C"] 1 4 "Z0H-",
  plain 0x0D "DEC" ["C"] 1 4 "Z1H-",
  plain 0x0E "LD" ["C", "D8"] 2 8 "----",
  plain 0x0F "RRCA" [] 1 4 "000C",
  plain 0x10 "STOP" [] 2 4 "----",
  plain 0x11 "LD" ["DE", "D16"] 3 12 "----",
  plain 0x12 "LD" ["[DE]", "A"] 1 8 "----",
  plain 0x13 "INC" ["DE"] 1 8 "----",
  plain 0x14 "INC" ["D"] 1 4 "Z0H-",
  plain 0x15 "DEC" ["D"] 1 4 "Z1H-",
  plain 0x16 "LD" ["D", "D8"] 2 8 "----",
  plain 0x17 "RLA" [] 1 4 "000C",
  plain 0x18 "JR" ["R8"] 2 12 "----",
  plain 0x19 "ADD" ["HL", "DE"] 1 8 "-0HC",
  plain 0x1A "LD" ["A", "[DE]"] 1 8 "----",
  plain 0x1B "DEC" ["DE"] 1 8 "----",
  plain 0x1C "INC" ["E"] 1 4 "Z0H-",
  plain 0x1D "DEC" ["E"] 1 4 "Z1H-",
  plain 0x1E "LD" ["E", "D8"] 2 8 "----",
  plain 0x1F "RRA" [] 1 4 "000C",
  branch 0x20 "JR" ["NZ", "R8"] 2 12 8,
  plain 0x21 "LD" ["HL", "D16"] 3 12 "----",
  plain 0x22 "LD" ["[HL+]", "A"] 1 8 "----",
  plain 0x23 "INC" ["HL"] 1 8 "----",
  plain 0x24 "INC" ["H"] 1 4 "Z0H-",
  plain 0x25 "DEC" ["H"] 1 4 "Z1H-",
  plain 0x26 "LD" ["H", "D8"] 2 8 "----",
  plain 0x27 "DAA" [] 1 4 "Z-0C",
  branch 0x28 "JR" ["Z", "R8"] 2 12 8,
  plain 0x29 "ADD" ["HL", "HL"] 1 8 "-0HC",
  plain 0x2A "LD" ["A", "[HL+]"] 1 8 "----",
  plain 0x2B "DEC" ["HL"] 1 8 "----",
  plain 0x2C "INC" ["L"] 1 4 "Z0H-",
  plain 0x2D "DEC" ["L"] 1 4 "Z1H-",
  plain 0x2E "LD" ["L", "D8"] 2 8 "----",
  plain 0x2F "CPL" [] 1 4 "-11-",
  branch 0x30 "JR" ["NC", "R8"] 2 12 8,
  plain 0x31 "LD" ["SP", "D16"] 3 12 "----",
  plain 0x32 "LD" ["[HL-]", "A"] 1 8 "----",
  plain 0x33 "INC" ["SP"] 1 8 "----",
  plain 0x34 "INC" ["[HL]"] 1 12 "Z0H-",
  plain 0x35 "DEC" ["[HL]"] 1 12 "Z1H-",
  plain 0x36 "LD" ["[HL]", "D8"] 2 12 "----",
  plain 0x37 "SCF" [] 1 4 "-001",
  branch 0x38 "JR" ["C", "R8"] 2 12 8,
  plain 0x39 "ADD" ["HL", "SP"] 1 8 "-0HC",
  plain 0x3A "LD" ["A", "[HL-]"] 1 8 "----",
  plain 0x3B "DEC" ["SP"] 1 8 "----",
  plain 0x3C "INC" ["A"] 1 4 "Z0H-",
  plain 0x3D "DEC" ["A"] 1 4 "Z1H-",
  plain 0x3E "LD" ["A", "D8"] 2 8 "----",
  plain 0x3F "CCF" [] 1 4 "-00C"]

/-- Opcodes C0 to FF. -/
def upperQuarter : List Entry := [
  branch 0xC0 "RET" ["NZ"] 1 20 8,
  plain 0xC1 "POP" ["BC"] 1 12 "----",
  branch 0xC2 "JP" ["NZ", "A16"] 3 16 12,
  plain 0xC3 "JP" ["A16"] 3 16 "----",
  branch 0xC4 "CALL" ["NZ", "A16"] 3 24 12,
  plain 0xC5 "PUSH" ["BC"] 1 16 "----",
  plain 0xC6 "ADD" ["A", "D8"] 2 8 "Z0HC",
  plain 0xC7 "RST" ["00H"] 1 16 "----",
  branch 0xC8 "RET" ["Z"] 1 20 8,
  plain 0xC9 "RET" [] 1 16 "----",
  branch 0xCA "JP" ["Z", "A16"] 3 16 12,
  branch 0xCC "CALL" ["Z", "A16"] 3 24 12,
  plain 0xCD "CALL" ["A16"] 3 24 "----",
  plain 0xCE "ADC" ["A", "D8"] 2 8 "Z0HC",
  plain 0xCF "RST" ["08H"] 1 16 "----",
  branch 0xD0 "RET" ["NC"] 1 20 8,
  plain 0xD1 "POP" ["DE"] 1 12 "----",
  branch 0xD2 "JP" ["NC", "A16"] 3 16 12,
  branch 0xD4 "CALL" ["NC", "A16"] 3 24 12,
  plain 0xD5 "PUSH" ["DE"] 1 16 "----",
  plain 0xD6 "SUB" ["D8"] 2 8 "Z1HC",
  plain 0xD7 "RST" ["10H"] 1 16 "----",
  branch 0xD8 "RET" ["C"] 1 20 8,
  plain 0xD9 "RETI" [] 1 16 "----",
  branch 0xDA "JP" ["C", "A16"] 3 16 12,
  branch 0xDC "CALL" ["C", "A16"] 3 24 12,
  plain 0xDE "SBC" ["A", "D8"] 2 8 "Z1HC",
  plain 0xDF "RST" ["18H"] 1 16 "----",
  plain 0xE0 "LDH" ["[A8]", "A"] 2 12 "----",
  plain 0xE1 "POP" ["HL"] 1 12 "----",
  plain 0xE2 "LD" ["[C]", "A"] 1 8 "----",
  plain 0xE5 "PUSH" ["HL"] 1 16 "----",
  plain 0xE6 "AND" ["D8"] 2 8 "Z010",
  plain 0xE7 "RST" ["20H"] 1 16 "----",
  plain 0xE8 "ADD" ["SP", "R8"] 2 16 "00HC",
  plain 0xE9 "JP" ["HL"] 1 4 "----",
  plain 0xEA "LD" ["[A16]", "A"] 3 16 "----",
  plain 0xEE "XOR" ["D8"] 2 8 "Z000",
  plain 0xEF "RST" ["28H"] 1 16 "----",
  plain 0xF0 "LDH" ["A", "[A8]"] 2 12 "----",
  plain 0xF1 "POP" ["AF"] 1 12 "ZNHC",
  plain 0xF2 "LD" ["A", "[C]"] 1 8 "----",
  plain 0xF3 "DI" [] 1 4 "----",
  plain 0xF5 "PUSH" ["AF"] 1 16 "----",
  plain 0xF6 "OR" ["D8"] 2 8 "Z000",
  plain 0xF7 "RST" ["30H"] 1 16 "----",
  plain 0xF8 "LD" ["HL", "SP+R8"] 2 12 "00HC",
  plain 0xF9 "LD" ["SP", "HL"] 1 8 "----",
  plain 0xFA "LD" ["A", "[A16]"] 3 16 "----",
  plain 0xFB "EI" [] 1 4 "----",
  plain 0xFE "CP" ["D8"] 2 8 "Z1HC",
  plain 0xFF "RST" ["38H"] 1 16 "----"]

/-- The load from one register to another; where both would be memory, the processor halts. -/
def load (target source : Nat × Text) : Entry :=
  if target.2 = "[HL]" ∧ source.2 = "[HL]" then plain 0x76 "HALT" [] 1 4 "----"
  else
    plain (0x40 + target.1 * 8 + source.1) "LD" [target.2, source.2] 1
      (if target.2 = "[HL]" ∨ source.2 = "[HL]" then 8 else 4) "----"

/-- A family of accumulator instructions: the mnemonic, whether the accumulator is written as
an operand, and the flags. -/
structure Arithmetic where
  mnemonic : Text
  namesAccumulator : Bool
  marks : Text

/-- The accumulator instructions in the order of their opcodes. -/
def arithmetics : List Arithmetic := [
  ⟨"ADD", true, "Z0HC"⟩, ⟨"ADC", true, "Z0HC"⟩, ⟨"SUB", false, "Z1HC"⟩, ⟨"SBC", true, "Z1HC"⟩,
  ⟨"AND", false, "Z010"⟩, ⟨"XOR", false, "Z000"⟩, ⟨"OR", false, "Z000"⟩, ⟨"CP", false, "Z1HC"⟩]

/-- An accumulator instruction on one register. -/
def Arithmetic.entry (family : Nat × Arithmetic) (source : Nat × Text) : Entry :=
  plain (0x80 + family.1 * 8 + source.1) family.2.mnemonic
    (if family.2.namesAccumulator then ["A", source.2] else [source.2]) 1
    (if source.2 = "[HL]" then 8 else 4) family.2.marks

/-- Pairs every element with its position. -/
def numbered {α : Type} (items : List α) : List (Nat × α) :=
  items.zipIdx.map fun (item, position) => (position, item)

/-- The unprefixed instructions in the order of their opcodes. -/
def unprefixed : List Entry :=
  lowerQuarter
    ++ (numbered registerOrder).flatMap (fun target => (numbered registerOrder).map (load target))
    ++ (numbered arithmetics).flatMap
        (fun family => (numbered registerOrder).map (Arithmetic.entry family))
    ++ upperQuarter

/-- The shifts and rotations in the order of their opcodes. -/
def shifts : List Text := ["RLC", "RRC", "RL", "RR", "SLA", "SRA", "SWAP", "SRL"]

/-- The bit instructions in the order of their opcodes. -/
def bitInstructions : List Text := ["BIT", "RES", "SET"]

/-- The mnemonics whose instructions stand behind the prefix byte. -/
def extendedMnemonics : List Text := shifts ++ bitInstructions

/-- A shift or rotation of one register. -/
def shift (mnemonic register : Nat × Text) : Entry :=
  { plain (mnemonic.1 * 8 + register.1) mnemonic.2 [register.2] 2
      (if register.2 = "[HL]" then 16 else 8)
      (if mnemonic.2 = "SWAP" then "Z000" else "Z00C") with extended := true }

/-- A bit instruction on one bit of one register. -/
def bitOperation (mnemonic : Nat × Text) (bit : Nat) (register : Nat × Text) : Entry :=
  { plain (0x40 + mnemonic.1 * 0x40 + bit * 8 + register.1) mnemonic.2
      [Numeral.decimal bit, register.2] 2
      (if register.2 = "[HL]" then if mnemonic.2 = "BIT" then 12 else 16 else 8)
      (if mnemonic.2 = "BIT" then "Z01-" else "----") with extended := true }

/-- The instructions behind the prefix byte in the order of their opcodes. -/
def extended : List Entry :=
  (numbered shifts).flatMap (fun mnemonic => (numbered registerOrder).map (shift mnemonic))
    ++ (numbered bitInstructions).flatMap fun mnemonic =>
        (List.range 8).flatMap fun bit =>
          (numbered registerOrder).map (bitOperation mnemonic bit)

/-- Other spellings that stand for an unprefixed instruction, with its opcode. -/
def otherSpellings : List (Text × Int) :=
  [("LDH [C],A", 0xE2), ("LDH A,[C]", 0xF2), ("JP [HL]", 0xE9)]

/-- The mnemonics of all instructions, each once. -/
def mnemonics : List Text :=
  ((unprefixed ++ extended).map Entry.mnemonic).eraseDups

end Sm83Cost.Opcode
