import Mathlib.Data.List.Forall2
import Sm83Cost.Opcode.Lookup
import Sm83Cost.Proofs.Text.Caseless

/-!
# Operands in any case

The form of an operand is guessed partly from the operand in capitals and partly
from the operand as written.  The tests on the operand as written ask for
hexadecimal digits, letters and word characters in either case, so an operand in
capitals has the same form (`form_asciiUpper`).

A look-up reads an operand by its form and as a literal, and nothing else of it is
looked at (`lookup_congr`).  So an instruction is found in any case
(`lookup_asciiUpper`).
-/

namespace Sm83Cost

set_option autoImplicit false

open Text (asciiUpper CaseBlind)

theorem Literal.value?_asciiUpper (text : Text) :
    Literal.value? (asciiUpper text) = Literal.value? text := by
  rw [Literal.value?, Literal.value?, Text.trim_asciiUpper, Text.upper_asciiUpper]

namespace Operand

theorem isRegister_asciiUpper (text : Text) : isRegister (asciiUpper text) = isRegister text := by
  rw [isRegister, isRegister, Text.upper_asciiUpper]

theorem isCondition_asciiUpper (text : Text) :
    isCondition (asciiUpper text) = isCondition text := by
  rw [isCondition, isCondition, Text.upper_asciiUpper]

theorem memoryForm_asciiUpper (text : Text) : memoryForm (asciiUpper text) = memoryForm text := by
  rw [memoryForm, memoryForm, Text.upper_asciiUpper]

theorem isRunOf_asciiUpper {p : Char → Bool} (blind : CaseBlind p) (text : Text) :
    isRunOf p (asciiUpper text) = isRunOf p text := by
  rw [isRunOf, isRunOf, Text.isEmpty_asciiUpper, Text.all_asciiUpper blind]

theorem firstHexDigits_asciiUpper (text : Text) :
    firstHexDigits (asciiUpper text) = (firstHexDigits text).map asciiUpper := by
  have digits : CaseBlind isHexDigit := Text.caseBlind_of_letters (by decide)
  induction text with
  | nil => rfl
  | cons c rest ih =>
    have dollar : c.toUpper = '$' ↔ c = '$' := Text.toUpper_eq_iff rfl c
    have whole : c.toUpper :: asciiUpper rest = asciiUpper (c :: rest) := rfl
    rw [← whole, firstHexDigits, firstHexDigits, ih, Text.any_head?_asciiUpper digits,
      Text.takeWhile_asciiUpper digits]
    simp only [dollar]
    split <;> rfl

theorem isIdentifier_asciiUpper (text : Text) :
    isIdentifier (asciiUpper text) = isIdentifier text := by
  have first : CaseBlind fun c => c.isAlpha || c == '_' := Text.caseBlind_of_letters (by decide)
  cases text with
  | nil => rfl
  | cons c rest =>
    exact congrArg₂ (· && ·) (first c) (Text.all_asciiUpper Text.caseBlind_isWord rest)

theorem isWide_asciiUpper (text : Text) : isWide (asciiUpper text) = isWide text := by
  rw [isWide, isWide, firstHexDigits_asciiUpper, isIdentifier_asciiUpper, isRegister_asciiUpper,
    isCondition_asciiUpper]
  cases firstHexDigits text with
  | none => rfl
  | some digits => simp only [Option.map_some, Option.any_some, Text.length_asciiUpper]

theorem isTarget_local (name : Text) :
    isTarget ('.' :: name) =
      (isRunOf Text.isWord name && !isRegister ('.' :: name) && !isCondition ('.' :: name)) :=
  rfl

theorem isTarget_of_ne {c : Char} (plain : c ≠ '.') (rest : Text) :
    isTarget (c :: rest) =
      (isRunOf Text.isWord (c :: rest) && !isRegister (c :: rest) && !isCondition (c :: rest)) := by
  unfold isTarget
  split
  · next name same => exact absurd (List.cons.inj same).1 plain
  · rfl

theorem isTarget_asciiUpper (text : Text) : isTarget (asciiUpper text) = isTarget text := by
  match text with
  | [] => rfl
  | c :: rest =>
    have word := isRunOf_asciiUpper Text.caseBlind_isWord
    have register := isRegister_asciiUpper (c :: rest)
    have condition := isCondition_asciiUpper (c :: rest)
    by_cases dot : c = '.'
    · subst dot
      have whole : asciiUpper ('.' :: rest) = '.' :: asciiUpper rest := rfl
      rw [whole] at register condition ⊢
      rw [isTarget_local, isTarget_local, word, register, condition]
    · have plain : c.toUpper ≠ '.' := (Text.toUpper_eq_iff rfl c).not.mpr dot
      have whole : asciiUpper (c :: rest) = c.toUpper :: asciiUpper rest := rfl
      rw [isTarget_of_ne dot, ← register, ← condition, ← word, whole, isTarget_of_ne plain]

theorem overlong?_asciiUpper (text : Text) : overlong? (asciiUpper text) = overlong? text := by
  rw [overlong?, overlong?, Text.all_asciiUpper Text.caseBlind_isDecimal, Text.length_asciiUpper]

theorem formOf_asciiUpper (text : Text) : formOf (asciiUpper text) = formOf text := by
  simp only [formOf, memoryForm_asciiUpper, Text.upper_asciiUpper, isWide_asciiUpper,
    isTarget_asciiUpper]

/-- The form of an operand does not depend on case. -/
theorem form_asciiUpper (text : Text) : form (asciiUpper text) = form text := by
  rw [form, form, Text.trim_asciiUpper, overlong?_asciiUpper, formOf_asciiUpper]

end Operand

/-! ## Operands that a look-up cannot tell apart -/

/-- The operands have one form, and are the same as literals. -/
structure Operand.Alike (operand other : Text) : Prop where
  form : Operand.form operand = Operand.form other
  value? : Literal.value? operand = Literal.value? other

theorem Operand.alike_asciiUpper (operand : Text) :
    Operand.Alike (asciiUpper operand) operand :=
  ⟨Operand.form_asciiUpper operand, Literal.value?_asciiUpper operand⟩

namespace Opcode

section Alike

variable {operands others : List Text} (alike : List.Forall₂ Operand.Alike operands others)
include alike

theorem mapM_form_congr : operands.mapM Operand.form = others.mapM Operand.form := by
  induction alike with
  | nil => rfl
  | cons same _ ih => rw [List.mapM_cons, List.mapM_cons, same.form, ih]

/-- Of a bit number nothing counts but its value. -/
theorem extendedCandidates_congr (mnemonic : Text) (forms : List Text) :
    extendedCandidates mnemonic operands forms = extendedCandidates mnemonic others forms := by
  match operands, others, alike, forms with
  | [], [], _, _ => rfl
  | [_], [_], _, [] | [_], [_], _, [_] | [_], [_], _, _ :: _ :: _ => rfl
  | [bit, _], [bit', _], .cons same _, [_, _] =>
    simp only [extendedCandidates, bitsToTry, literalBit?, same.value?]
  | [_, _], [_, _], _, [] | [_, _], [_, _], _, [_] | [_, _], [_, _], _, _ :: _ :: _ :: _ => rfl
  | _ :: _ :: _ :: _, _ :: _ :: _ :: _, _, _ => rfl

/-- Of a restart vector nothing counts but its value. -/
theorem restartOf?_congr (mnemonic : Text) :
    restartOf? mnemonic operands = restartOf? mnemonic others := by
  match operands, others, alike with
  | [], [], _ => rfl
  | [_], [_], .cons same _ => simp only [restartOf?, restartVector?, same.value?]
  | _ :: _ :: _, _ :: _ :: _, _ => rfl

/-- Instructions are found alike when their operands are alike. -/
theorem Table.lookup_congr (table : Table) (mnemonic : Text) :
    table.lookup mnemonic operands = table.lookup mnemonic others := by
  simp only [lookup, mapM_form_congr alike, find?, extendedCandidates_congr alike,
    restartOf?_congr alike]

end Alike

/-- An instruction is found in any case. -/
theorem Table.lookup_asciiUpper (table : Table) (mnemonic : Text) (operands : List Text) :
    table.lookup mnemonic (operands.map asciiUpper) = table.lookup mnemonic operands := by
  refine table.lookup_congr ?_ mnemonic
  rw [List.forall₂_map_left_iff]
  exact List.forall₂_same.2 fun operand _ => Operand.alike_asciiUpper operand

end Opcode

end Sm83Cost
