import Sm83Cost.Opcode.Entry

/-!
# Describing an instruction

An entry of the opcode table in words: over several lines for a reader, and on
one line for a message.
-/

namespace Sm83Cost.Opcode.Entry

set_option autoImplicit false

/-- The mnemonic with its operands. -/
def heading (entry : Entry) : Text :=
  Text.joined " "
    ([entry.mnemonic, Text.joined "," entry.operands].filter (!·.isEmpty))

/-- The cycles in words. -/
def cyclesInWords (entry : Entry) : Text :=
  match entry.cycles.numbers with
  | [] => []
  | [cycles] => Numeral.signed cycles
  | taken :: untaken :: _ =>
    Numeral.signed taken ++ " (branch taken) / " ++ Numeral.signed untaken ++ " (not taken)"

/-- The instruction with its opcode, size, cycles and flags. -/
def describe (entry : Entry) : Text :=
  Text.joined "\n" [
    entry.heading,
    "  Opcode: " ++ entry.hex,
    "  Size:   " ++ Numeral.signed entry.size ++ " byte" ++ (if entry.size = 1 then "" else "s"),
    "  Cycles: " ++ entry.cyclesInWords,
    "  Flags:  " ++ entry.flags.text]

/-- The instruction on one line. -/
def summary (entry : Entry) : Text :=
  "OpcodeEntry(" ++ entry.hex ++ ", " ++ Text.quoted entry.key ++ ", size="
    ++ Numeral.signed entry.size ++ ", cycles=["
    ++ Text.joined ", " (entry.cycles.numbers.map Numeral.signed) ++ "])"

end Sm83Cost.Opcode.Entry
