import Sm83Cost.Proofs.Cost.Abreast
import Sm83Cost.Proofs.Line.Caseless
import Sm83Cost.Proofs.Opcode.Caseless

/-!
# Costs in any case

Documents may be written in capitals, in small letters or in a mixture.  The view
that does not tell ASCII letters from their capitals is indifferent to that
difference: lines are taken apart at the same places, landmarks are recognised in
any case, and instructions are found in any case.  So the analyses of two such
documents go abreast (`analyse_caseless`).

Names of macros and mnemonics are kept in capitals, so what is left of the
difference in a result is the spelling of labels, operands, comments and lines.
-/

namespace Sm83Cost

set_option autoImplicit false

open Text (asciiUpper)

/-- The lines have the same characters, up to the case of ASCII letters. -/
def SameLetters (line other : Text) : Prop :=
  asciiUpper line = asciiUpper other

namespace Scan

/-- A line in capitals means the same to a scan. -/
theorem cue_asciiUpper (isMacro : Text → Bool) (number : Int) (text : Text) :
    cue isMacro number (asciiUpper text) = cue isMacro number text := by
  rw [cue, cue, Text.trim_asciiUpper, landmark?_asciiUpper, Line.parse_asciiUpper]
  rcases landmark? (Text.trim text) with _ | target | name | name
  · cases Line.parse isMacro number text <;> rfl
  · rfl
  · exact congrArg Cue.header (Text.upper_asciiUpper name)
  · rfl

end Scan

/-- The view without case is indifferent to case. -/
theorem View.indifferent_caseless : View.caseless.Indifferent SameLetters where
  parse {first second} same isMacro number := by
    refine Parallel.of_map_eq ?_
    rw [← Line.parse_asciiUpper, same, Line.parse_asciiUpper]
  cue {first second} same isMacro number := by
    rw [← Scan.cue_asciiUpper, same, Scan.cue_asciiUpper]
  isMacroEnd {first second} same := by
    rw [← Scan.isMacroEnd_asciiUpper, ← Text.trim_asciiUpper, same, Text.trim_asciiUpper,
      Scan.isMacroEnd_asciiUpper]
  lookup {operands others} spelled table mnemonic := by
    rw [← table.lookup_asciiUpper, ← table.lookup_asciiUpper mnemonic others]
    exact congrArg (table.lookup mnemonic) spelled

namespace Session

/-- **Costs do not depend on case.**  Two documents have the same characters line by line, up to the
case of ASCII letters, and are analysed without a directory in sessions of the same settings, with
the same start point.  Both analyses fail in the same way, or both have a result for each line, and
the results are the same in everything but the case in which texts are spelled. -/
theorem analyse_caseless {first second : Session} (configs : first.config = second.config)
    (tables : first.table = second.table) (opcodes : first.scanner.table = second.scanner.table)
    (pins : first.scanner.pinned = second.scanner.pinned) {file : Option Text}
    (starts : first.startPoints.startOf? file = second.startPoints.startOf? file)
    (tree : FileTree) {lines others : List Text}
    (documents : lines.map asciiUpper = others.map asciiUpper) :
    (first.analyse tree lines file none true).result.map (look .caseless) =
      (second.analyse tree others file none true).result.map (look .caseless) := by
  have alike : List.Forall₂ SameLetters lines others := by
    rwa [← List.forall₂_eq_eq_eq, List.forall₂_map_left_iff, List.forall₂_map_right_iff]
      at documents
  exact (analyse_abreast View.indifferent_caseless configs tables opcodes pins starts tree
    (.inl rfl) alike).1

/-- A macro that is defined in capitals and called in small letters, and an operand in hexadecimal
digits. -/
theorem analyse_caseless_call :
    let capitals : List Text :=
      ["TWICE: MACRO".toList, " INC HL".toList, " INC HL".toList, "ENDM".toList, " TWICE".toList,
        " LD A,[$FF0F]".toList, " PREDEF Far".toList]
    let mixture : List Text :=
      ["Twice: macro".toList, " inc hl".toList, " Inc Hl".toList, "endm".toList, " twice".toList,
        " ld a,[$ff0f]".toList, " predef far".toList]
    ((({} : Session).analyse {} capitals none none true).result.toOption.map totals =
        some { bytes := 13, cycles := 76 }) ∧
      (({} : Session).analyse {} capitals none none true).result.map (look .caseless) =
        (({} : Session).analyse {} mixture none none true).result.map (look .caseless) := by
  intro capitals mixture
  exact ⟨by decide +kernel, analyse_caseless rfl rfl rfl rfl rfl {} (by decide)⟩

end Session

end Sm83Cost
