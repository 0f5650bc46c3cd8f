import Sm83Cost.Proofs.Opcode.Literals

/-!
# Bits that are named by a number

The bit instructions are tried for all bits in order when the name of the bit is a
symbol.  They are tried in the same way when it is a number that no bit has.  So a
number from zero to seven is reported as it is written, in any notation, and every
other number as the bit zero (`names_bit_iff`): `bit 8, b` tests the bit `0`
(`bit_eight_is_zero`).
-/

namespace Sm83Cost

set_option autoImplicit false

namespace Numeral

/-- A numeral stands for one number only. -/
theorem decimal_injective : Function.Injective decimal := by
  intro number other same
  calc
    number = Nat.ofDigitChars 10 (decimal number) 0 := Nat.ofDigitChars_ten_toDigits.symm
    _ = Nat.ofDigitChars 10 (decimal other) 0 := by rw [same]
    _ = other := Nat.ofDigitChars_ten_toDigits

theorem signed_eq_decimal_iff {value : Int} {number : Nat} :
    signed value = decimal number ↔ value = number := by
  rw [signed]
  split
  · next negative =>
    refine iff_of_false ?_ (by omega)
    intro same
    have sign : '-' ∈ decimal number := same ▸ List.mem_cons_self
    exact absurd (Nat.isDigit_of_mem_toDigits (by decide) (by decide) sign) (by decide)
  · rw [decimal_injective.eq_iff]
    omega

end Numeral

namespace Opcode

/-- The bit of a number: itself from zero to seven, and otherwise zero. -/
theorem cast_literalBit {text : Text} {value : Int} (literal : Literal.value? text = some value) :
    (((literalBit? text).getD 0 : Nat) : Int) = if 0 ≤ value ∧ value ≤ 7 then value else 0 := by
  rw [literalBit?, literal, Option.bind_some]
  split
  · next within => exact Int.toNat_of_nonneg within.1
  · rfl

/-- A bit instruction with any two operands is found for a register, and for the bit that is tried
first. -/
theorem exists_bitOperation {mnemonic text written : Text} {entry : Entry}
    (bit : Text.upper mnemonic ∈ bitInstructions)
    (found : Table.standard.lookup mnemonic [text, written] = .ok (some entry)) :
    ∃ kind ∈ numbered bitInstructions, ∃ register ∈ numbered registerOrder,
      entry = bitOperation kind ((literalBit? text).getD 0) register := by
  have kinds : ∀ mnemonic ∈ bitInstructions,
      ∃ kind ∈ numbered bitInstructions, kind.2 = mnemonic := by
    decide
  obtain ⟨kind, known, capitals⟩ := kinds _ bit
  cases read : [text, written].mapM Operand.form with
  | error cause =>
    rw [Table.lookup, read] at found
    cases found
  | ok forms =>
    rw [Table.lookup, read, ← capitals] at found
    obtain ⟨_, rest, formed, tail, rfl⟩ := List.forall₂_cons_left_iff.1 (forall₂_of_mapM read)
    obtain ⟨second, _, -, none, rfl⟩ := List.forall₂_cons_left_iff.1 tail
    obtain rfl := List.forall₂_nil_left_iff.1 none
    have found' := Except.ok.inj found
    rw [find?_bits known formed] at found'
    obtain ⟨key, tried, there⟩ := List.exists_of_findSome?_eq_some found'
    obtain ⟨number, -, rfl⟩ := List.mem_map.1 tried
    obtain ⟨-, -, register, listed, -, rfl, -⟩ := eq_of_getExtended? known there
    have first := find?_bit known formed listed written
    rw [find?_bits known formed, found'] at first
    exact ⟨kind, known, register, listed, Option.some.inj first⟩

/-- **A bit that is named by a number is the one that is reported exactly if there is such a bit.**
Otherwise the first bit is reported. -/
theorem names_bit_iff {mnemonic text written : Text} {value : Int} {entry : Entry}
    (bit : Text.upper mnemonic ∈ bitInstructions) (literal : Literal.value? text = some value)
    (found : Table.standard.lookup mnemonic [text, written] = .ok (some entry)) :
    (entry.operands.head? = some (Numeral.signed value) ↔ 0 ≤ value ∧ value ≤ 7) ∧
      (0 ≤ value ∧ value ≤ 7 ∨ entry.operands.head? = some "0") := by
  obtain ⟨kind, -, register, -, rfl⟩ := exists_bitOperation bit found
  have named := cast_literalBit literal
  have head : (bitOperation kind ((literalBit? text).getD 0) register).operands.head? =
      some (Numeral.decimal ((literalBit? text).getD 0)) := rfl
  rw [head, Option.some_inj, eq_comm, Numeral.signed_eq_decimal_iff, named]
  by_cases within : 0 ≤ value ∧ value ≤ 7
  · rw [if_pos within]
    exact ⟨iff_of_true rfl within, .inl within⟩
  · rw [if_neg within] at named ⊢
    have first : (literalBit? text).getD 0 = 0 := by omega
    refine ⟨iff_of_false ?_ within, .inr (by rw [first]; rfl)⟩
    rintro rfl
    exact within (by decide)

/-- The bit `7` in hexadecimal digits. -/
theorem names_bit_iff_seven :
    ∃ entry, Table.standard.lookup "res" ["07h", "(hl)"] = .ok (some entry) ∧
      entry.operands.head? = some (Numeral.signed 7) := by
  have literal : Literal.value? "07h" = some 7 := by decide +kernel
  have found : Table.standard.lookup "res" ["07h", "(hl)"] =
      .ok (some (bitOperation (1, "RES") 7 (6, "[HL]"))) := by
    decide +kernel
  obtain ⟨named, -⟩ := names_bit_iff (by decide) literal found
  exact ⟨_, found, named.2 (by decide)⟩

/-- There is no bit `8`, and the bit `0` is reported in its place. -/
theorem bit_eight_is_zero :
    Literal.value? "8" = some 8 ∧
      ∃ entry, Table.standard.lookup "bit" ["8", "b"] = .ok (some entry) ∧
        entry.operands.head? = some "0" ∧ entry.operands.head? ≠ some (Numeral.signed 8) := by
  have found : Table.standard.lookup "bit" ["8", "b"] =
      .ok (some (bitOperation (0, "BIT") 0 (0, "B"))) := by
    decide +kernel
  exact ⟨by decide +kernel, _, found, by decide, by decide⟩

end Opcode

end Sm83Cost
