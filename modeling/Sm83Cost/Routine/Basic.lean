import Sm83Cost.Registry

/-!
# Routines

A routine is a global label with comments above it that say what it expects in
which register, or what it does.
-/

namespace Sm83Cost

set_option autoImplicit false

/-- A register that a routine expects something in.  The register is in small letters. -/
structure Argument where
  register : Text
  description : Text
deriving DecidableEq, Repr

/-- A routine with the place of its label and what its comments say. -/
structure Routine where
  name : Text
  file : Option Text
  line : Int
  arguments : List Argument := []
  description : Option Text := none
deriving DecidableEq, Repr

instance : Named Routine := ⟨Routine.name⟩

/-- The comments say something. -/
def Routine.isDocumented (routine : Routine) : Bool :=
  !routine.arguments.isEmpty || routine.description.any (!·.isEmpty)

end Sm83Cost
