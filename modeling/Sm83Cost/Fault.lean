import Sm83Cost.File.Tree

/-!
# Faults

What makes a scan or an analysis give up.  Source text can do so only by a
decimal numeral that is too long; the other causes lie in what was handed over
beside it.
-/

namespace Sm83Cost

set_option autoImplicit false

/-- Why a scan or an analysis was given up. -/
inductive Fault where
  /-- A number can be neither read nor written. -/
  | numeral (error : Numeral.Error)
  /-- An instruction or a macro lists no cycles. -/
  | noCycles
  /-- A path cannot be used. -/
  | path (place : Path) (error : PathError)
deriving DecidableEq, Repr

namespace Fault

/-- The text of a fault. -/
def message : Fault → Text
  | .numeral error => error.message
  | .noCycles => "tuple index out of range"
  | .path place error => error.describe place

variable {α : Type}

/-- What can fail only on a number. -/
def ofNumeral (result : Except Numeral.Error α) : Except Fault α :=
  result.mapError Fault.numeral

/-- Cycles that are asked for and may not be listed. -/
def requireCycles (cycles : Option α) : Except Fault α :=
  match cycles with
  | some found => .ok found
  | none => .error .noCycles

/-! ## Taking a success apart -/

/-- Two steps in a row succeed exactly when both do. -/
theorem bind_eq_ok {ε β : Type} {first : Except ε α} {second : α → Except ε β} {value : β} :
    (first >>= second) = .ok value ↔
      ∃ middle, first = .ok middle ∧ second middle = .ok value := by
  cases first with
  | error cause => simp [bind, Except.bind]
  | ok middle => simp [bind, Except.bind]

theorem ofNumeral_eq_ok {result : Except Numeral.Error α} {value : α} :
    ofNumeral result = .ok value ↔ result = .ok value := by
  cases result with
  | error cause => exact ⟨nofun, nofun⟩
  | ok found => exact ⟨fun same => by cases same; rfl, fun same => by cases same; rfl⟩

theorem requireCycles_eq_ok {cycles : Option α} {found : α} :
    requireCycles cycles = .ok found ↔ cycles = some found := by
  cases cycles <;> simp [requireCycles]

end Fault

end Sm83Cost
