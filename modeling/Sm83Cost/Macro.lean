import Sm83Cost.Line.Basic
import Sm83Cost.Opcode.Entry
import Sm83Cost.Registry

/-!
# Macros

A macro is a block of lines with a name.  Its cost is that of its body, summed
once when the block ends.
-/

namespace Sm83Cost

set_option autoImplicit false

/-- A macro with the lines where it begins and ends, its cost and its operations. -/
structure Macro where
  name : Text
  startLine : Int
  endLine : Int
  size : Int
  cycles : Cycles
  body : List Line := []
deriving DecidableEq, Repr

instance : Named Macro := ⟨Macro.name⟩

end Sm83Cost
