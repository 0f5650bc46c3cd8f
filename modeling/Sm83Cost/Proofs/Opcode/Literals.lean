import Sm83Cost.Proofs.Line.Numerals
import Sm83Cost.Proofs.Opcode.Caseless
import Sm83Cost.Proofs.Opcode.Resolution

/-!
# Instructions on numerals

A restart names its vector and a bit instruction its bit by a numeral.  The form of
a numeral is never the vector or the bit itself (`Operand.formOf_ne`): these are words,
and a word becomes an immediate value.  So nothing is found under the form, and the
value alone decides.

Without the number of a vector no restart is found (`lookup_restart`).  Without the
number of a bit the first one is found (`lookup_bit`), which stands for all of them,
since they differ in nothing but their opcodes.
-/

namespace Sm83Cost

set_option autoImplicit false

open Text (asciiUpper)

/-- A word that is an immediate value is the form of no operand. -/
theorem Operand.formOf_ne {word : Text} (written : Operand.isImmediate word = true)
    (other : word ∉ Operand.guesses) (text : Text) : Operand.formOf text ≠ word := by
  rintro rfl
  rcases Operand.formOf_cases text with guessed | ⟨same, plain⟩
  · exact other guessed
  · rw [← same, written] at plain
    cases plain

namespace Opcode

/-! ## Restarts -/

/-- The vector with this number, as the table writes it. -/
def vector (number : Nat) : Text :=
  Numeral.hex 2 (8 * number : Int) ++ ['H']

theorem get?_vector {number : Nat} (bound : number < 8) :
    ∃ entry, Table.standard.get? (spaced "RST" (vector number)) = some entry ∧
      entry.opcode = 0xC7 + 8 * number := by
  have each : ∀ number < 8, (Table.standard.get? (spaced "RST" (vector number))).any
      (fun entry => entry.opcode == 0xC7 + 8 * (number : Int)) = true := by
    decide
  obtain ⟨entry, found, opcode⟩ := (Option.any_eq_true _ _).1 (each number bound)
  exact ⟨entry, found, beq_iff_eq.1 opcode⟩

/-- Restarts are found under nothing but their vectors. -/
theorem exists_vector {rest : Text} {entry : Entry}
    (found : Table.standard.get? (spaced "RST" rest) = some entry) :
    ∃ number < 8, rest = vector number := by
  have under : Table.standard.under? "RST" (spaced "RST" rest) = some entry := by
    rwa [Table.under?, if_neg (by decide)]
  rcases Table.key_of_under? under with ⟨member, same⟩ | spelled
  · have each : ∀ entry ∈ Table.standard.entries, entry.mnemonic = "RST" →
        ∃ number < 8, Text.joined "," entry.operands = vector number := by
      decide +kernel
    obtain ⟨mnemonic, -, operands⟩ := (Table.plain_of_standard member).of_key same.symm
    rw [← operands]
    exact each entry member mnemonic
  · have each : ∀ spelling ∈ Table.standard.spellings, spelling.1.head? ≠ some 'R' := by
      decide
    exact absurd rfl (each _ spelled)

theorem formOf_ne_vector (text : Text) {number : Nat} (bound : number < 8) :
    Operand.formOf text ≠ vector number := by
  have each : ∀ number < 8, Operand.isImmediate (vector number) = true ∧
      vector number ∉ Operand.guesses := by
    decide
  exact Operand.formOf_ne (each number bound).1 (each number bound).2 text

/-- No restart is found by the form of its operand or by what that may also stand for. -/
theorem findSome?_restart (text : Text) :
    (keyOf "RST" (Text.joined "," [Operand.formOf text]) ::
      candidates "RST" [Operand.formOf text]).findSome? Table.standard.get? = none := by
  have missed : ∀ other ∈ Operand.formOf text :: substitutes (Operand.formOf text),
      Table.standard.get? (spaced "RST" other) = none := by
    intro other among
    by_contra found
    obtain ⟨entry, found⟩ := Option.ne_none_iff_exists'.1 found
    obtain ⟨number, bound, rfl⟩ := exists_vector found
    rcases List.mem_cons.1 among with same | substitute
    · exact formOf_ne_vector text bound same.symm
    · have each : ∀ number < 8, vector number ∉ memoryForms ++ anyForms := by decide
      refine each number bound (List.mem_append.2 ?_)
      rw [substitutes] at substitute
      split at substitute
      · exact .inl substitute
      · exact .inr substitute
  rw [List.findSome?_eq_none_iff]
  intro key tried
  rcases List.mem_cons.1 tried with rfl | tried
  · rw [Line.joined_singleton]
    by_cases empty : Operand.formOf text = []
    · rw [empty]
      decide +kernel
    · rw [keyOf_of_ne_nil _ empty]
      exact missed _ List.mem_cons_self
  · obtain ⟨other, among, rfl⟩ := List.mem_map.1 tried
    exact missed other among

/-- A restart is looked for under its vector, or else under the form of its operand. -/
theorem find?_restart (operand form : Text) :
    Table.standard.find? "RST" [operand] [form] =
      match restartVector? operand with
      | some named => Table.standard.get? (spaced "RST" named)
      | none => (keyOf "RST" (Text.joined "," [form]) ::
          candidates "RST" [form]).findSome? Table.standard.get? := by
  have plain : extendedMnemonics.contains "RST" = false := by decide
  have named : restartOf? "RST" [operand] = restartVector? operand := by
    rw [restartOf?, if_pos rfl]
  cases vector : restartVector? operand with
  | none => simp only [Table.find?, plain, named, vector, Bool.false_eq_true, if_false]
  | some restart => simp only [Table.find?, plain, named, vector, Bool.false_eq_true, if_false]

theorem get?_negative {value : Int} (negative : value < 0) :
    Table.standard.get? (spaced "RST" (Numeral.hex 2 value ++ "H")) = none := by
  have each : ∀ number < 8, (vector number).head? ≠ some '-' := by decide
  by_contra found
  obtain ⟨entry, found⟩ := Option.ne_none_iff_exists'.1 found
  obtain ⟨number, bound, same⟩ := exists_vector found
  refine each number bound ?_
  rw [← same, Numeral.hex, if_pos negative]
  rfl

/-- Either the operand is the number of a vector, and the restart of this vector is found, or no
restart is. -/
theorem find?_restart_cases {text form : Text} (own : form = Operand.formOf (Text.trim text)) :
    (∃ number : Nat, number < 8 ∧ Literal.value? text = some (8 * (number : Int)) ∧
      ∃ entry, Table.standard.find? "RST" [text] [form] = some entry ∧
        entry.opcode = 0xC7 + 8 * (number : Int)) ∨
    (∀ number : Nat, number < 8 → Literal.value? text ≠ some (8 * (number : Int))) ∧
      Table.standard.find? "RST" [text] [form] = none := by
  rw [find?_restart]
  cases literal : Literal.value? text with
  | none =>
    have unnamed : restartVector? text = none := by rw [restartVector?, literal]; rfl
    rw [unnamed, own]
    refine .inr ⟨?_, findSome?_restart _⟩
    rintro _ _ ⟨⟩
  | some value =>
    have named : restartVector? text =
        if value ≤ 0x38 ∧ value % 8 = 0 then some (Numeral.hex 2 value ++ "H") else none := by
      rw [restartVector?, literal]
      rfl
    rw [named]
    by_cases within : value ≤ 0x38 ∧ value % 8 = 0
    · rw [if_pos within]
      by_cases negative : value < 0
      · refine .inr ⟨fun number bound same => ?_, get?_negative negative⟩
        have equal := Option.some.inj same
        omega
      · obtain ⟨number, rfl⟩ : ∃ number : Nat, value = 8 * (number : Int) :=
          ⟨(value / 8).toNat, by omega⟩
        have bound : number < 8 := by omega
        exact .inl ⟨number, bound, rfl, get?_vector bound⟩
    · rw [if_neg within, own]
      refine .inr ⟨fun number bound same => within ?_, findSome?_restart _⟩
      have equal := Option.some.inj same
      omega

/-- **A restart is found exactly if its operand is the number of a vector**, and then with the
opcode of that vector. -/
theorem lookup_restart {text : Text} (short : Text.ShortNumerals text) :
    ∃ found, Table.standard.lookup "RST" [text] = .ok found ∧
      (found.isSome = true ↔
        ∃ value ∈ ([0x00, 0x08, 0x10, 0x18, 0x20, 0x28, 0x30, 0x38] : List Int),
          Literal.value? text = some value) ∧
      ∀ entry ∈ found, ∀ value, Literal.value? text = some value →
        entry.opcode = 0xC7 + value := by
  obtain ⟨form, formed⟩ := exists_form short
  have read : [text].mapM Operand.form = .ok [form] := by
    rw [List.mapM_cons, formed]
    rfl
  have capitals : Text.upper "RST" = "RST".toList := by decide
  refine ⟨Table.standard.find? "RST" [text] [form], ?_, ?_⟩
  · rw [Table.lookup, read, capitals]
    rfl
  · rcases find?_restart_cases (Operand.form_eq formed) with
      ⟨number, bound, literal, entry, found, opcode⟩ | ⟨unnamed, found⟩
    · have each : ∀ number : Nat, number < 8 → 8 * (number : Int) ∈
          ([0x00, 0x08, 0x10, 0x18, 0x20, 0x28, 0x30, 0x38] : List Int) := by decide
      rw [found, literal]
      refine ⟨iff_of_true rfl ⟨_, each number bound, rfl⟩, fun other same value equal => ?_⟩
      rw [← Option.some.inj same, opcode, Option.some.inj equal]
    · have each : ∀ value ∈ ([0x00, 0x08, 0x10, 0x18, 0x20, 0x28, 0x30, 0x38] : List Int),
          ∃ number : Nat, number < 8 ∧ value = 8 * (number : Int) := by decide
      rw [found]
      constructor
      · refine iff_of_false Bool.false_ne_true ?_
        rintro ⟨value, listed, literal⟩
        obtain ⟨number, bound, rfl⟩ := each value listed
        exact unnamed number bound literal
      · rintro _ ⟨⟩

/-! ## Bit instructions -/

theorem map_entry_list (entries : List Entry) :
    (Table.list entries).map Listed.entry = entries := by
  rw [Table.list, List.map_map]
  exact List.map_id entries

/-- The bit instructions of the table, one for each bit of each register. -/
theorem mem_entries_iff {entry : Entry} (bit : entry.mnemonic ∈ bitInstructions) :
    entry ∈ Table.standard.entries ↔ ∃ kind ∈ numbered bitInstructions, ∃ number < 8,
      ∃ register ∈ numbered registerOrder, bitOperation kind number register = entry := by
  have whole : Table.standard.entries = Opcode.unprefixed ++ Opcode.extended := by
    rw [Table.entries, List.map_append]
    exact congrArg₂ (· ++ ·) (map_entry_list _) (map_entry_list _)
  have others : ∀ entry ∈ Opcode.unprefixed, entry.mnemonic ∉ bitInstructions := by decide +kernel
  have shifts : ∀ kind ∈ numbered shifts, kind.2 ∉ bitInstructions := by decide
  rw [whole, List.mem_append, or_iff_right fun plain => others entry plain bit, Opcode.extended,
    List.mem_append, or_iff_right]
  · simp only [List.mem_flatMap, List.mem_map, List.mem_range]
  · intro shifted
    obtain ⟨kind, among, shifted⟩ := List.mem_flatMap.1 shifted
    obtain ⟨register, -, rfl⟩ := List.mem_map.1 shifted
    exact shifts kind among bit

section Bits

variable {kind register : Nat × Text} (known : kind ∈ numbered bitInstructions)
include known

theorem mem_bitInstructions : kind.2 ∈ bitInstructions := by
  have each : ∀ kind ∈ numbered bitInstructions, kind.2 ∈ bitInstructions := by decide
  exact each kind known

/-- Under two operands of a bit instruction stands what they say, or nothing. -/
theorem eq_of_getExtended? {first second : Text} {entry : Entry}
    (found : Table.standard.getExtended? (pairKey kind.2 (first, second)) = some entry) :
    ∃ number < 8, ∃ register ∈ numbered registerOrder, first = Numeral.decimal number ∧
      second = register.2 ∧ entry = bitOperation kind number register := by
  obtain ⟨extended, same⟩ := Table.key_of_findIn found
  have member : entry ∈ Table.standard.entries := by
    rw [Table.entries, List.map_append]
    exact List.mem_append_right _ extended
  obtain ⟨mnemonic, operands⟩ := (Table.plain_of_standard member).operands_of_pair same.symm
  obtain ⟨kind', known', number, bound, register, listed, rfl⟩ :=
    (mem_entries_iff (mnemonic ▸ mem_bitInstructions known)).1 member
  have alone : ∀ kind ∈ numbered bitInstructions, ∀ other ∈ numbered bitInstructions,
      kind.2 = other.2 → kind = other := by decide
  obtain rfl := alone kind' known' kind known mnemonic
  obtain ⟨firsts, seconds⟩ := List.cons.inj operands
  exact ⟨number, bound, register, listed, firsts.symm, (List.cons.inj seconds).1.symm, rfl⟩

variable (listed : register ∈ numbered registerOrder)
include listed

/-- Every bit of every register stands under its own operands. -/
theorem getExtended?_bit {number : Nat} (bound : number < 8) :
    Table.standard.getExtended? (pairKey kind.2 (Numeral.decimal number, register.2)) =
      some (bitOperation kind number register) := by
  have bit := mem_bitInstructions known
  have lists : Lists kind.2 [Numeral.decimal number, register.2] :=
    ⟨bitOperation kind number register,
      (mem_entries_iff bit).2 ⟨kind, known, number, bound, register, listed, rfl⟩, rfl, rfl⟩
  have extended : ∀ mnemonic ∈ bitInstructions, extendedMnemonics.contains mnemonic = true := by
    decide
  have found := lists.found_pair
  rw [Table.under?, if_pos (extended _ bit)] at found
  obtain ⟨entry, there⟩ := Option.isSome_iff_exists.1 found
  obtain ⟨number', bound', register', listed', numbers, registers, rfl⟩ :=
    eq_of_getExtended? known there
  have apart : (∀ number < 8, ∀ other < 8, Numeral.decimal number = Numeral.decimal other →
        number = other) ∧
      ∀ register ∈ numbered registerOrder, ∀ other ∈ numbered registerOrder,
        register.2 = other.2 → register = other := by
    decide
  obtain rfl := apart.1 number bound number' bound' numbers
  obtain rfl := apart.2 register listed register' listed' registers
  exact there

end Bits

theorem formOf_ne_decimal (text : Text) {number : Nat} (bound : number < 8) :
    Operand.formOf text ≠ Numeral.decimal number := by
  have each : ∀ number < 8, Operand.isImmediate (Numeral.decimal number) = true ∧
      Numeral.decimal number ∉ Operand.guesses := by
    decide
  exact Operand.formOf_ne (each number bound).1 (each number bound).2 text

/-- The bit that is tried first is the one that is named, or else the first one. -/
theorem exists_bitsToTry (operand : Text) :
    ∃ others, bitsToTry operand = (literalBit? operand).getD 0 :: others := by
  rw [bitsToTry]
  cases literalBit? operand with
  | none => exact ⟨[1, 2, 3, 4, 5, 6, 7], rfl⟩
  | some bit => exact ⟨List.range 8, rfl⟩

theorem literalBit_lt (operand : Text) : (literalBit? operand).getD 0 < 8 := by
  cases named : literalBit? operand with
  | none => decide
  | some bit =>
    obtain ⟨value, -, within⟩ := Option.bind_eq_some_iff.1 named
    split at within
    · cases within
      show value.toNat < 8
      omega
    · cases within

section Found

variable {kind : Nat × Text} (known : kind ∈ numbered bitInstructions) {text form : Text}
  (formed : Operand.form text = .ok form)
include known formed

/-- Nothing is found under the form of the first operand. -/
theorem getExtended?_form (second : Text) :
    Table.standard.getExtended? (pairKey kind.2 (form, second)) = none := by
  by_contra found
  obtain ⟨entry, found⟩ := Option.ne_none_iff_exists'.1 found
  obtain ⟨number, bound, -, -, same, -⟩ := eq_of_getExtended? known found
  rw [Operand.form_eq formed] at same
  exact formOf_ne_decimal _ bound same

/-- A bit instruction is looked for under the bits alone. -/
theorem find?_bits (written second : Text) :
    Table.standard.find? kind.2 [text, written] [form, second] =
      ((bitsToTry text).map fun number => pairKey kind.2 (Numeral.decimal number, second)).findSome?
        Table.standard.getExtended? := by
  have each : ∀ kind ∈ numbered bitInstructions,
      extendedMnemonics.contains kind.2 = true ∧ bitInstructions.contains kind.2 = true := by
    decide
  obtain ⟨extended, bit⟩ := each kind known
  rw [Table.find?, if_pos extended, extendedCandidates, keyOf_pair, List.findSome?_cons,
    getExtended?_form known formed second]
  dsimp only
  rw [if_pos bit]
  rfl

/-- What is found stands under the bit that is tried first. -/
theorem find?_bit {register : Nat × Text} (listed : register ∈ numbered registerOrder)
    (written : Text) :
    Table.standard.find? kind.2 [text, written] [form, register.2] =
      some (bitOperation kind ((literalBit? text).getD 0) register) := by
  obtain ⟨others, tried⟩ := exists_bitsToTry text
  rw [find?_bits known formed, tried, List.map_cons, List.findSome?_cons,
    getExtended?_bit known listed (literalBit_lt text)]

end Found

/-- **A bit instruction is found for the bit that its first operand names**, and for the first bit
if it names none. -/
theorem lookup_bit {kind register : Nat × Text} (known : kind ∈ numbered bitInstructions)
    (listed : register ∈ numbered registerOrder) {text written : Text}
    (short : Text.ShortNumerals text) (spelled : asciiUpper written = register.2) :
    Table.standard.lookup kind.2 [text, written] =
      .ok (some (bitOperation kind ((literalBit? text).getD 0) register)) := by
  have each : (∀ kind ∈ numbered bitInstructions, Text.upper kind.2 = kind.2) ∧
      ∀ register ∈ numbered registerOrder, Operand.form register.2 = .ok register.2 := by
    decide
  obtain ⟨form, formed⟩ := exists_form short
  have formed' : Operand.form written = .ok register.2 := by
    rw [← Operand.form_asciiUpper, spelled, each.2 register listed]
  have read : [text, written].mapM Operand.form = .ok [form, register.2] := by
    rw [List.mapM_cons, formed, List.mapM_cons, formed']
    rfl
  rw [Table.lookup, read, each.1 kind known]
  exact congrArg Except.ok (find?_bit known formed listed written)

/-- The bits of one register differ in nothing but their opcodes. -/
theorem alike_of_bitOperation {kind register : Nat × Text}
    (known : kind ∈ numbered bitInstructions) (number : Nat) {other : Entry}
    (member : other ∈ Table.standard.entries) (mnemonic : other.mnemonic = kind.2)
    (second : other.operands[1]? = some register.2) :
    other.size = (bitOperation kind number register).size ∧
      other.cycles = (bitOperation kind number register).cycles ∧
      other.flags = (bitOperation kind number register).flags := by
  obtain ⟨kind', -, number', -, register', -, rfl⟩ :=
    (mem_entries_iff (mnemonic ▸ mem_bitInstructions known)).1 member
  have kinds : kind'.2 = kind.2 := mnemonic
  have registers : register'.2 = register.2 := Option.some.inj second
  simp only [bitOperation, plain, kinds, registers, and_self]

/-- **A numeral selects exactly its own opcode.**  A restart is found exactly if its operand is the
number of a vector.  A bit instruction is always found, with what all bits of the register have in
common, and its opcode is that of the bit if its first operand is the number of one. -/
theorem numerals_select_opcodes {text : Text} (short : Text.ShortNumerals text) :
    (∃ found, Table.standard.lookup "RST" [text] = .ok found ∧
      (found.isSome = true ↔
        ∃ value ∈ ([0x00, 0x08, 0x10, 0x18, 0x20, 0x28, 0x30, 0x38] : List Int),
          Literal.value? text = some value) ∧
      ∀ entry ∈ found, ∀ value, Literal.value? text = some value →
        entry.opcode = 0xC7 + value) ∧
    ∀ kind ∈ ([("BIT", 0x40), ("RES", 0x80), ("SET", 0xC0)] : List (Text × Int)),
      ∀ register ∈ numbered registerOrder, ∀ written, asciiUpper written = register.2 →
        ∃ entry ∈ Table.standard.entries,
          Table.standard.lookup kind.1 [text, written] = .ok (some entry) ∧
          entry.mnemonic = kind.1 ∧ entry.operands[1]? = some register.2 ∧
          (∀ other ∈ Table.standard.entries, other.mnemonic = kind.1 →
            other.operands[1]? = some register.2 →
            other.size = entry.size ∧ other.cycles = entry.cycles ∧ other.flags = entry.flags) ∧
          ∀ value, Literal.value? text = some value → 0 ≤ value → value ≤ 7 →
            entry.opcode = kind.2 + 8 * value + register.1 := by
  refine ⟨lookup_restart short, fun kind named register listed written spelled => ?_⟩
  have numbers : ∀ kind ∈ ([("BIT", 0x40), ("RES", 0x80), ("SET", 0xC0)] : List (Text × Int)),
      ∃ known ∈ numbered bitInstructions,
        known.2 = kind.1 ∧ 0x40 + (known.1 : Int) * 0x40 = kind.2 := by
    decide
  obtain ⟨known, among, mnemonic, base⟩ := numbers kind named
  rw [← mnemonic, ← base]
  refine ⟨bitOperation known ((literalBit? text).getD 0) register, ?_,
    lookup_bit among listed short spelled, rfl, rfl,
    fun other member same second => alike_of_bitOperation among _ member same second, ?_⟩
  · exact (mem_entries_iff (mem_bitInstructions among)).2
      ⟨known, among, _, literalBit_lt text, register, listed, rfl⟩
  · intro value literal least most
    have bit : literalBit? text = some value.toNat := by
      rw [literalBit?, literal]
      exact if_pos ⟨least, most⟩
    rw [bit]
    simp only [bitOperation, plain, Option.getD_some]
    omega

/-- A restart of a vector in binary, and a bit in hexadecimal with a sign. -/
theorem numerals_select_opcodes_spelled :
    (∃ entry, Table.standard.lookup "RST" ["%1_0000"] = .ok (some entry) ∧ entry.opcode = 0xD7) ∧
      ∃ entry, Table.standard.lookup "SET" ["$+07", "[hL]"] = .ok (some entry) ∧
        entry.opcode = 0xFE := by
  have vector : Literal.value? "%1_0000" = some 0x10 := by decide
  have bit : Literal.value? "$+07" = some 7 := by decide +kernel
  have short : Text.ShortNumerals "%1_0000" ∧ Text.ShortNumerals "$+07" :=
    ⟨Text.shortNumerals_of_length_le (by decide), Text.shortNumerals_of_length_le (by decide)⟩
  obtain ⟨⟨found, read, known, opcode⟩, -⟩ := numerals_select_opcodes short.1
  obtain ⟨-, bits⟩ := numerals_select_opcodes short.2
  obtain ⟨entry, there⟩ := Option.isSome_iff_exists.1 (known.2 ⟨0x10, by decide, vector⟩)
  obtain ⟨entry', -, read', -, -, -, opcode'⟩ :=
    bits ("SET", 0xC0) (by decide) (6, "[HL]") (by decide) "[hL]" (by decide)
  refine ⟨⟨entry, read.trans (congrArg Except.ok there), opcode entry there 0x10 vector⟩,
    entry', read', ?_⟩
  exact opcode' 7 bit (by decide) (by decide)

end Opcode

end Sm83Cost
