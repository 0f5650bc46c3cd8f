import Sm83Cost.File.Tree
import Sm83Cost.Macro

/-!
# The journal

What happens during a scan or an analysis is noted in a journal, which a user
may ask to see.  Nothing in it influences a result.
-/

namespace Sm83Cost

set_option autoImplicit false

/-- One note of the journal. -/
inductive Record where
  /-- No instruction of the table has this mnemonic with these operands. -/
  | unknownInstruction (mnemonic : Text) (operands : List Text)
  /-- A macro was defined before. -/
  | macroRedefined (name : Text)
  /-- A routine was documented before. -/
  | routineRedefined (name : Text)
  /-- The end of a macro is missing. -/
  | macroUnclosed (name : Text) (line : Nat)
  /-- The cost of a macro. -/
  | macroMeasured (name : Text) (size : Int) (cycles : Cycles)
  /-- A path cannot be looked at. -/
  | unusablePath (path : Path) (error : PathError)
  /-- An included file was not found. -/
  | includeMissing (target : Text) (directory : Path)
  /-- An included file cannot be read. -/
  | includeSkipped (path : Path) (error : PathError)
  /-- An included file is scanned. -/
  | includeScanned (path : Path)
  /-- A source file cannot be read. -/
  | fileSkipped (path : Path) (error : PathError)
  /-- A directory cannot be listed. -/
  | directoryUnlisted (directory : Text) (error : PathError)
  /-- A setting names no option. -/
  | settingIgnored (key : Text)
  /-- A document was analysed. -/
  | analysed (document : Text) (lines : Nat) (bytes cycles : Int)
  /-- All files have been scanned. -/
  | finished (files routines : Nat)
deriving DecidableEq, Repr

namespace Record

/-- Numbers in brackets. -/
def bracketed (numbers : List Int) : Text :=
  "[" ++ Text.joined ", " (numbers.map Numeral.signed) ++ "]"

/-- The note in words. -/
def message : Record → Text
  | .unknownInstruction mnemonic operands =>
    "No opcode for " ++ mnemonic ++ " " ++ Text.joined ", " operands
  | .macroRedefined name => "Redefining macro " ++ name
  | .routineRedefined name => "Redefining routine " ++ name
  | .macroUnclosed name line =>
    "Macro " ++ name ++ " at line " ++ Numeral.decimal line ++ " has no ENDM"
  | .macroMeasured name size cycles =>
    "Macro " ++ name ++ ": " ++ Numeral.signed size ++ " bytes, cycles "
      ++ bracketed cycles.numbers
  | .unusablePath path error => "Cannot stat " ++ path.text ++ ": " ++ error.describe path
  | .includeMissing target directory =>
    "INCLUDE " ++ Text.quoted target ++ " not found from " ++ directory.text
  | .includeSkipped path error =>
    "Skipping INCLUDE " ++ path.text ++ ": " ++ error.describe path
  | .includeScanned path => "Scanning included file " ++ path.text
  | .fileSkipped path error => "Skipping " ++ path.text ++ ": " ++ error.describe path
  | .directoryUnlisted directory error =>
    "Cannot read directory " ++ directory ++ ": " ++ error.describeAt directory
  | .settingIgnored key => "Ignoring unknown metrics option " ++ Text.quoted key
  | .analysed document lines bytes cycles =>
    "Analyzed " ++ document ++ ": " ++ Numeral.decimal lines ++ " lines, "
      ++ Numeral.signed bytes ++ " bytes, " ++ Numeral.signed cycles ++ " cycles counted"
  | .finished files routines =>
    "Scanned " ++ Numeral.decimal files ++ " files, " ++ Numeral.decimal routines
      ++ " documented routines"

/-- The weight of the note: only the end of a scan is more than a detail. -/
def level : Record → Text
  | .finished _ _ => "INFO"
  | _ => "DEBUG"

/-- The note as a line of the journal. -/
def line (record : Record) : Text :=
  record.level ++ ": " ++ record.message

end Record

end Sm83Cost
