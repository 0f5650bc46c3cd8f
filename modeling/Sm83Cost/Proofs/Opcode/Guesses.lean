import Sm83Cost.Proofs.Line.Retracing
import Sm83Cost.Proofs.Opcode.Brackets

/-!
# What the form of an operand can be

The form of an operand is one of a few that are guessed (`guesses`), or the operand
itself in its one spelling, which then is not written like an immediate value
(`formOf_cases`).

A form is never empty, and it has no comma where nothing is open, since the operand
has none (`isToken_form`).  So the forms of the operands of an instruction can be
told apart again when they are joined by commas.
-/

namespace Sm83Cost.Operand

set_option autoImplicit false

open Line (IsOperand)
open Line.Nesting

/-! ## Guessed forms -/

/-- The forms that are guessed from how an operand is written. -/
def guesses : List Text :=
  (["D8", "D16", "R8", "SP+R8", "[A8]", "[A16]"] : List Text)
    ++ indirections.map fun inner => '[' :: inner ++ [']']

theorem memoryReference_mem_guesses (inner : Text) : memoryReference inner ∈ guesses := by
  unfold memoryReference
  split
  · next through =>
    have listed := List.contains_iff_mem.1 through
    exact List.mem_append_right _ (List.mem_map.2 ⟨inner, listed, rfl⟩)
  · split_ifs <;> decide

/-- A form is guessed, or it is the one spelling of an operand that is no immediate value. -/
theorem formOf_cases (text : Text) :
    formOf text ∈ guesses ∨
      formOf text = memoryForm text ∧ isImmediate (memoryForm text) = false := by
  unfold formOf
  dsimp only
  split
  · exact .inl (by decide)
  · split
    · split <;> exact .inl (by decide)
    · next written =>
      split
      · exact .inl (memoryReference_mem_guesses _)
      · split_ifs
        · exact .inl (by decide)
        · exact .inl (by decide)
        · exact .inr ⟨rfl, Bool.eq_false_iff.2 written⟩

/-! ## Forms are tokens -/

/-- A text that is not empty and has no comma where nothing is open. -/
structure IsToken (text : Text) : Prop where
  nonempty : text ≠ []
  passes : Passes atComma {} text

theorem isToken_iff {text : Text} : IsToken text ↔ text ≠ [] ∧ (breakAt atComma {} text).2 = [] :=
  ⟨fun token => ⟨token.nonempty, token.passes⟩, fun token => ⟨token.1, token.2⟩⟩

instance : DecidablePred IsToken := fun _ => decidable_of_iff _ isToken_iff.symm

theorem isToken_formOf {text : Text} (is : IsOperand text) : IsToken (formOf text) := by
  rcases formOf_cases text with guessed | ⟨same, -⟩
  · have each : ∀ form ∈ guesses, IsToken form := by decide
    exact each _ guessed
  · rw [same]
    exact ⟨memoryForm_ne_nil is.nonempty is.trimmed.1,
      (retraces_memoryForm text).passes proper_start is.passes⟩

/-- The form of an operand is not empty and has no comma where nothing is open. -/
theorem isToken_form {operand form : Text} (is : IsOperand operand)
    (read : Operand.form operand = .ok form) : IsToken form := by
  rw [form_eq read, Text.trim_of_isTrimmed is.trimmed]
  exact isToken_formOf is

end Sm83Cost.Operand
