import Mathlib.Data.List.Forall2
import Sm83Cost.Proofs.Opcode.Brackets
import Sm83Cost.Proofs.Opcode.Keys

/-!
# Operands that keep their form

A register, a condition and an access through a register are fixed: no other operand
of the table means the same.  Everything else is a value or an address, for which the
table has its own operands.  An instruction that is found keeps its operands when
every fixed one is the operand of the entry at the same place, and every access to
memory is one in the entry (`Keeps`).

Where the table does not list the operands of an instruction, one of them or both are
replaced.  Whether the operands are kept then does not depend on what they were
replaced by, but only on what the table provides (`Fits`), and for each way to replace
them this is one lemma.
-/

namespace Sm83Cost

set_option autoImplicit false

open Operand (isMemory isMemory_iff)

/-- The registers, the conditions and the accesses to memory through a register. -/
def Operand.fixedForms : List Text :=
  registers ++ conditions ++ indirections.map fun inner => '[' :: inner ++ [']']

/-- A form for which no other can stand. -/
def Operand.isFixed (form : Text) : Bool :=
  fixedForms.contains form

open Operand (isFixed)

namespace Opcode

/-! ## What it means to keep operands -/

/-- An operand with this form keeps it in an entry with the given operand at its place. -/
structure KeepsForm (form : Text) (token? : Option Text) : Prop where
  fixed : isFixed form = true → token? = some form
  memory : isMemory form = true → token?.any isMemory = true

/-- Every operand keeps its form. -/
def Keeps (forms tokens : List Text) : Prop :=
  ∀ (index : Nat) (form : Text), forms[index]? = some form → KeepsForm form tokens[index]?

/-- An operand of the table stands for a form: it is this form, or neither is fixed and an access
to memory stays one. -/
def Suits (form token : Text) : Prop :=
  token = form ∨
    isFixed form = false ∧ isFixed token = false ∧ (isMemory form = true → isMemory token = true)

/-- The table lists operands for the mnemonic that stand for the given forms. -/
def Provided (mnemonic : Text) (forms : List Text) : Prop :=
  ∃ tokens, Lists mnemonic tokens ∧ List.Forall₂ Suits forms tokens

/-- No operand is fixed, and the second one is no access to memory. -/
def Loose (forms : List Text) : Prop :=
  (∀ form ∈ forms, isFixed form = false) ∧
    ∀ second, forms[1]? = some second → isMemory second = false

/-- Operands are kept exactly if nothing is fixed or the table provides for them. -/
def Fits (mnemonic : Text) (forms tokens : List Text) : Prop :=
  Keeps forms tokens ↔ Loose forms ∨ Provided mnemonic forms

section Forms

variable {mnemonic form token first second : Text} {tokens : List Text}

theorem KeepsForm.refl (form : Text) : KeepsForm form (some form) :=
  ⟨fun _ => rfl, fun memory => memory⟩

/-- What is not fixed is kept if an access to memory stays one. -/
theorem KeepsForm.of_loose {token? : Option Text} (loose : isFixed form = false)
    (memory : isMemory form = true → token?.any isMemory = true) : KeepsForm form token? := by
  refine ⟨fun fixed => ?_, memory⟩
  rw [loose] at fixed
  cases fixed

theorem Suits.eq_of_fixed (suits : Suits form token) (fixed : isFixed form = true) :
    token = form := by
  rcases suits with same | ⟨loose, -, -⟩
  · exact same
  · rw [fixed] at loose
    cases loose

theorem Suits.eq_of_fixed_token (suits : Suits form token) (fixed : isFixed token = true) :
    token = form := by
  rcases suits with same | ⟨-, loose, -⟩
  · exact same
  · rw [fixed] at loose
    cases loose

/-- An operand that is not fixed suits the forms that it keeps. -/
theorem keepsForm_iff_suits (loose : isFixed token = false) (differs : token ≠ form) :
    KeepsForm form (some token) ↔ Suits form token := by
  constructor
  · intro keeps
    refine .inr ⟨?_, loose, keeps.memory⟩
    rw [Bool.eq_false_iff]
    intro fixed
    exact differs (Option.some.inj (keeps.fixed fixed))
  · intro suits
    obtain ⟨unfixed, -, memory⟩ := suits.resolve_left differs
    exact .of_loose unfixed memory

theorem keeps_single : Keeps [form] tokens ↔ KeepsForm form tokens[0]? := by
  constructor
  · intro keeps
    exact keeps 0 form rfl
  · intro keeps index other there
    obtain ⟨rfl, rfl⟩ : index = 0 ∧ form = other := by
      cases index with
      | zero => exact ⟨rfl, Option.some.inj there⟩
      | succ index => cases there
    exact keeps

theorem keeps_pair {token other : Text} :
    Keeps [first, second] [token, other] ↔
      KeepsForm first (some token) ∧ KeepsForm second (some other) := by
  constructor
  · intro keeps
    exact ⟨keeps 0 first rfl, keeps 1 second rfl⟩
  · rintro ⟨firsts, seconds⟩ index form there
    match index with
    | 0 =>
      cases there
      exact firsts
    | 1 =>
      cases there
      exact seconds

theorem loose_single : Loose [form] ↔ isFixed form = false := by
  simp [Loose]

theorem loose_pair :
    Loose [first, second] ↔
      isFixed first = false ∧ isFixed second = false ∧ isMemory second = false := by
  simp [Loose, and_assoc]

theorem provided_single :
    Provided mnemonic [form] ↔ ∃ token, Lists mnemonic [token] ∧ Suits form token := by
  constructor
  · rintro ⟨tokens, listed, suits⟩
    obtain ⟨token, rest, suit, rests, rfl⟩ := List.forall₂_cons_left_iff.1 suits
    rw [List.forall₂_nil_left_iff.1 rests] at listed
    exact ⟨token, listed, suit⟩
  · rintro ⟨token, listed, suit⟩
    exact ⟨[token], listed, .cons suit .nil⟩

theorem provided_pair :
    Provided mnemonic [first, second] ↔
      ∃ token other, Lists mnemonic [token, other] ∧ Suits first token ∧ Suits second other := by
  constructor
  · rintro ⟨tokens, listed, suits⟩
    obtain ⟨token, others, firsts, suits', rfl⟩ := List.forall₂_cons_left_iff.1 suits
    obtain ⟨other, rest, seconds, rests, rfl⟩ := List.forall₂_cons_left_iff.1 suits'
    rw [List.forall₂_nil_left_iff.1 rests] at listed
    exact ⟨token, other, listed, firsts, seconds⟩
  · rintro ⟨token, other, listed, firsts, seconds⟩
    exact ⟨[token, other], listed, .cons firsts (.cons seconds .nil)⟩

end Forms

/-! ## What the table has at the two places -/

section Places

variable {mnemonic first second : Text}

/-- What holds of the two operands of every entry holds of every two that are listed. -/
theorem Lists.of_entries {P : Text → Text → Text → Prop} (listed : Lists mnemonic [first, second])
    (each : ∀ entry ∈ Table.standard.entries, ∀ first ∈ entry.operands[0]?,
      ∀ second ∈ entry.operands[1]?, P entry.mnemonic first second) :
    P mnemonic first second := by
  obtain ⟨entry, member, rfl, operands⟩ := listed
  apply each entry member
  · rw [operands]
    rfl
  · rw [operands]
    rfl

/-- Where the first operand of an unprefixed instruction is not fixed, it is an address in memory
and the second operand is fixed. -/
theorem first_of_unprefixed (unprefixed : extendedMnemonics.contains mnemonic = false)
    (listed : Lists mnemonic [first, second]) (loose : isFixed first = false) :
    isFixed second = true ∧ isMemory first = true ∧ first ∈ (["[A8]", "[A16]"] : List Text) := by
  revert unprefixed loose
  apply listed.of_entries (P := fun mnemonic first second =>
    extendedMnemonics.contains mnemonic = false → isFixed first = false →
      isFixed second = true ∧ isMemory first = true ∧ first ∈ (["[A8]", "[A16]"] : List Text))
  decide +kernel

/-- Where the first operand of an unprefixed instruction is fixed and the second is not, the second
is one of the forms that are tried, but for the stack pointer with an offset. -/
theorem second_of_unprefixed (unprefixed : extendedMnemonics.contains mnemonic = false)
    (listed : Lists mnemonic [first, second]) (fixed : isFixed first = true)
    (loose : isFixed second = false) :
    second ∈ anyForms ∧ second ≠ "[HL]".toList ∧ (isMemory second = true → second ∈ memoryForms) ∨
      first = "HL".toList ∧ second = "SP+R8".toList := by
  revert unprefixed fixed loose
  apply listed.of_entries (P := fun mnemonic first second =>
    extendedMnemonics.contains mnemonic = false → isFixed first = true → isFixed second = false →
      second ∈ anyForms ∧ second ≠ "[HL]".toList ∧
          (isMemory second = true → second ∈ memoryForms) ∨
        first = "HL".toList ∧ second = "SP+R8".toList)
  decide +kernel

/-- The two operands of an extended instruction are a bit and something fixed. -/
theorem places_of_extended (extended : extendedMnemonics.contains mnemonic = true)
    (listed : Lists mnemonic [first, second]) :
    isFixed first = false ∧ isMemory first = false ∧ isFixed second = true := by
  revert extended
  apply listed.of_entries (P := fun mnemonic first second =>
    extendedMnemonics.contains mnemonic = true →
      isFixed first = false ∧ isMemory first = false ∧ isFixed second = true)
  decide +kernel

/-- Whatever loads the stack pointer with an offset into `HL` also loads a value into it, and stores
one through it. -/
theorem value_of_offset (listed : Lists mnemonic ["HL", "SP+R8"]) :
    Lists mnemonic ["HL", "D16"] ∧ Lists mnemonic ["[HL]", "D8"] := by
  have each : ∀ entry ∈ Table.standard.entries, entry.operands = ["HL", "SP+R8"] →
      Lists entry.mnemonic ["HL", "D16"] ∧ Lists entry.mnemonic ["[HL]", "D8"] := by
    decide +kernel
  obtain ⟨entry, member, rfl, operands⟩ := listed
  exact each entry member operands

end Places

/-! ## The forms that are tried -/

theorem mem_substitutes {form other : Text} (any : other ∈ anyForms)
    (memory : isMemory form = true → other ∈ memoryForms) : other ∈ substitutes form := by
  rw [substitutes]
  split
  · next bracket => exact memory (beq_iff_eq.2 bracket)
  · exact any

/-- What a form may also stand for is no access through a register but the one through `HL`, and
an access to memory stays one. -/
theorem loose_of_mem_substitutes {form other : Text} (among : other ∈ substitutes form) :
    (other ≠ "[HL]".toList → isFixed other = false) ∧
      (isMemory form = true → isMemory other = true) := by
  have each : (∀ other ∈ anyForms, other ≠ "[HL]".toList → isFixed other = false) ∧
      ∀ other ∈ memoryForms, other ∈ anyForms ∧ isMemory other = true := by
    decide
  rw [substitutes] at among
  split at among
  · exact ⟨each.1 other (each.2 other among).1, fun _ => (each.2 other among).2⟩
  · next plain =>
    refine ⟨each.1 other among, fun memory => ?_⟩
    exact absurd (beq_iff_eq.1 memory) plain

/-! ## The operands that are found

One lemma for each way in which operands may have been replaced.  In each of them the operands
as they are were not listed. -/

section Found

variable {mnemonic first second : Text}

/-- Operands as they are always fit. -/
theorem fits_of_forms {forms : List Text} (listed : Lists mnemonic forms) :
    Fits mnemonic forms forms := by
  refine iff_of_true ?_ (.inr ⟨forms, listed, List.forall₂_same.2 fun _ _ => .inl rfl⟩)
  intro index form there
  rw [there]
  exact .refl form

/-- The first operand was replaced by one that is not fixed, like all that the table has there. -/
theorem fits_of_first {other : Text} (missed : ¬ Lists mnemonic [first, second])
    (listed : Lists mnemonic [other, second]) (loose : isFixed other = false)
    (fixed : isFixed second = true)
    (alike : ∀ token, Lists mnemonic [token, second] → isFixed token = false →
      isMemory token = isMemory other) :
    Fits mnemonic [first, second] [other, second] := by
  have differs : other ≠ first := by
    rintro rfl
    exact missed listed
  have tight : ¬ Loose [first, second] := by
    rw [loose_pair, fixed]
    simp
  rw [Fits, or_iff_right tight, keeps_pair, and_iff_left (.refl second),
    keepsForm_iff_suits loose differs, provided_pair]
  constructor
  · intro suits
    exact ⟨other, second, listed, suits, .inl rfl⟩
  · rintro ⟨token, token', listed', suits, suits'⟩
    cases suits'.eq_of_fixed fixed
    rcases suits with rfl | ⟨unfixed, loose', memory⟩
    · exact absurd listed' missed
    · rw [alike token listed' loose'] at memory
      exact .inr ⟨unfixed, loose, memory⟩

/-- The second operand was replaced by one of the forms it may stand for. -/
theorem fits_of_second {other : Text} (missed : ¬ Lists mnemonic [first, second])
    (listed : Lists mnemonic [first, other]) (fixed : isFixed first = true)
    (loose : isFixed other = false) (memory : isMemory second = true → isMemory other = true) :
    Fits mnemonic [first, second] [first, other] := by
  have differs : other ≠ second := by
    rintro rfl
    exact missed listed
  have tight : ¬ Loose [first, second] := by
    rw [loose_pair, fixed]
    simp
  rw [Fits, or_iff_right tight, keeps_pair, and_iff_right (.refl first),
    keepsForm_iff_suits loose differs, provided_pair]
  constructor
  · intro suits
    exact ⟨first, other, listed, .inl rfl, suits⟩
  · rintro ⟨token, token', listed', suits, suits'⟩
    cases suits.eq_of_fixed fixed
    rcases suits' with rfl | ⟨unfixed, -, -⟩
    · exact absurd listed' missed
    · exact .inr ⟨unfixed, loose, memory⟩

/-- Both operands were replaced, and neither alone could have been: the table provides nothing. -/
theorem fits_of_both (unprefixed : extendedMnemonics.contains mnemonic = false)
    (listed : Lists mnemonic ["[HL]", "D8"]) (missed : ¬ Lists mnemonic [first, second])
    (seconds : ∀ form ∈ substitutes second, form ≠ "[HL]".toList →
      ¬ Lists mnemonic [first, form])
    (firsts : ∀ form ∈ (["[A8]", "[A16]"] : List Text), ¬ Lists mnemonic [form, second]) :
    Fits mnemonic [first, second] ["[HL]", "D8"] := by
  have unprovided : ¬ Provided mnemonic [first, second] := by
    rw [provided_pair]
    rintro ⟨token, token', listed', suits, suits'⟩
    cases fixed : isFixed token with
    | false =>
      obtain ⟨fixed', -, among⟩ := first_of_unprefixed unprefixed listed' fixed
      cases suits'.eq_of_fixed_token fixed'
      exact firsts token among listed'
    | true =>
      cases suits.eq_of_fixed_token fixed
      rcases suits' with rfl | ⟨-, loose, memory⟩
      · exact missed listed'
      · rcases second_of_unprefixed unprefixed listed' fixed loose with
          ⟨among, differs, stays⟩ | ⟨rfl, rfl⟩
        · have tried := mem_substitutes among fun given => stays (memory given)
          exact seconds token' tried differs listed'
        · have tried : "D16".toList ∈ substitutes second := by
            apply mem_substitutes (by decide)
            intro given
            cases memory given
          exact seconds "D16" tried (by decide) (value_of_offset listed').1
  rw [Fits, or_iff_left unprovided, keeps_pair, loose_pair]
  constructor
  · rintro ⟨keeps, keeps'⟩
    have plain : isMemory second = false := by
      rw [Bool.eq_false_iff]
      intro memory
      cases keeps'.memory memory
    refine ⟨?_, ?_, plain⟩
    · rw [Bool.eq_false_iff]
      intro fixed
      -- Then the first operand is kept, and the second alone would have been replaced.
      cases keeps.fixed fixed
      refine seconds "D8" (mem_substitutes (by decide) fun memory => ?_) (by decide) listed
      rw [plain] at memory
      cases memory
    · rw [Bool.eq_false_iff]
      intro fixed
      cases keeps'.fixed fixed
      cases fixed
  · rintro ⟨loose, loose', plain⟩
    refine ⟨.of_loose loose fun _ => rfl, .of_loose loose' fun memory => ?_⟩
    rw [plain] at memory
    cases memory

end Found

end Opcode

end Sm83Cost
