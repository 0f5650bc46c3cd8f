import Sm83Cost.Store
import Sm83Cost.Text.Case

/-!
# Registries

Macros and routines are found by name without regard to case.  A registry is a
store whose keys are names in capitals, so a later definition of a name takes
the place of an earlier one.
-/

namespace Sm83Cost

set_option autoImplicit false

/-- Definitions that have a name. -/
class Named (α : Type) where
  /-- The name as written. -/
  name : α → Text

/-- Definitions under their names in capitals. -/
abbrev Registry (α : Type) := Store α

namespace Registry

variable {α : Type}

/-- The definition of a name. -/
def find? (registry : Registry α) (name : Text) : Option α :=
  registry.get? (Text.upper name)

/-- The name is defined. -/
def defines (registry : Registry α) (name : Text) : Bool :=
  (find? registry name).isSome

/-- Defines a name, or defines it anew. -/
def register [Named α] (registry : Registry α) (definition : α) : Registry α :=
  registry.put (Text.upper (Named.name definition)) definition

/-- The names as written, in the order in which they were first defined. -/
def names [Named α] (registry : Registry α) : List Text :=
  registry.values.map Named.name

end Registry

end Sm83Cost
