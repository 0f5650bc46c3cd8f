import Sm83Cost.Fault
import Sm83Cost.Journal
import Sm83Cost.Opcode.Lookup
import Sm83Cost.Routine.Basic

/-!
# Scanners

A scanner holds what has been found in documents: the macros of the last one and
the routines of all.  Lines are taken apart with its macros in view.  A scanner
can be given fresh macros while lines are still taken apart with the earlier
ones; those are then pinned.
-/

namespace Sm83Cost

set_option autoImplicit false

/-- What has been found in documents. -/
structure Scanner where
  table : Opcode.Table := .standard
  macros : Registry Macro := .empty
  routines : Registry Routine := .empty
  pinned : Option (Registry Macro) := none

namespace Scanner

/-- The name is taken for a macro. -/
def recognises (scanner : Scanner) (name : Text) : Bool :=
  (scanner.pinned.getD scanner.macros).defines name

/-- Takes a line apart. -/
def parseLine (scanner : Scanner) (text : Text) (number : Int) : Except Numeral.Error Line :=
  Line.parse scanner.recognises number text

/-- Forgets all macros and routines. -/
def clear (scanner : Scanner) : Scanner :=
  { scanner with macros := .empty, routines := .empty }

/-- Begins with fresh macros, while lines are taken apart with those of now. -/
def detach (scanner : Scanner) : Scanner :=
  { scanner with macros := .empty, pinned := some (scanner.pinned.getD scanner.macros) }

end Scanner

end Sm83Cost
