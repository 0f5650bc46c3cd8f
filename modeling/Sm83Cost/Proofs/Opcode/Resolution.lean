import Sm83Cost.Proofs.Line.Parse
import Sm83Cost.Proofs.Opcode.Guesses
import Sm83Cost.Proofs.Opcode.Operands

/-!
# The instruction that is found

A key is a mnemonic, a blank, and operands with commas between them.  An operand may
hold a comma in quotes or in brackets, and a mnemonic may hold a blank there.  The
keys of the table hold neither, and nothing is open at the end of their parts.  So a
key of the table has one reading, and it can only be met by the same mnemonic and the
same operands (`Legible.unique`).

Every key that is tried for an instruction is made of its mnemonic and as many tokens
as it has operands; only for a restart the operand is replaced by a vector.  So what
is found is an entry for the mnemonic that was written, with as many operands
(`answers_of_parse`).  The loads through `C` have a second spelling with the
mnemonic `LDH`.
-/

namespace Sm83Cost

set_option autoImplicit false

/-! ## Texts put together at a place for a cut -/

namespace Line.Nesting

variable {stop : Nesting → Char → Bool} {c : Char} {text other rest others : Text}

theorem not_passes_append (stops : stop {} c = true) (closed : text.foldl step {} = {}) :
    ¬ Passes stop {} (text ++ c :: rest) := by
  rw [passes_append, passes_cons, closed, stops]
  simp

/-- Where a cut would be made behind both texts, they are the same. -/
theorem eq_of_cut (stops : stop {} c = true) (passes : Passes stop {} text)
    (closed : other.foldl step {} = {}) (plain : c ∉ other)
    (same : text ++ c :: rest = other ++ c :: others) : text = other ∧ rest = others := by
  rcases List.append_eq_append_iff.1 same with ⟨middle, rfl, behind⟩ | ⟨middle, rfl, behind⟩
  · cases middle with
    | nil => exact ⟨(List.append_nil text).symm, (List.cons.inj behind).2⟩
    | cons d more =>
      obtain ⟨rfl, -⟩ := List.cons.inj behind
      simp at plain
  · cases middle with
    | nil => exact ⟨List.append_nil other, (List.cons.inj behind).2.symm⟩
    | cons d more =>
      obtain ⟨rfl, -⟩ := List.cons.inj behind
      exact absurd passes (not_passes_append stops closed)

end Line.Nesting

open Line (joined_singleton)
open Line.Nesting
open Operand (IsToken)

namespace Opcode

/-! ## Reading keys -/

/-- The key is made of the mnemonic and the operands.  The mnemonic holds no blank, no operand is
empty or holds a comma, and nothing is open at the end of any of them. -/
@[mk_iff]
structure Legible (key mnemonic : Text) (operands : List Text) : Prop where
  key_eq : key = keyOf mnemonic (Text.joined "," operands)
  mnemonic_closed : ' ' ∉ mnemonic ∧ mnemonic.foldl step {} = {}
  operand_closed : ∀ operand ∈ operands, operand ≠ [] ∧ ',' ∉ operand ∧ operand.foldl step {} = {}

instance (key mnemonic : Text) (operands : List Text) : Decidable (Legible key mnemonic operands) :=
  decidable_of_iff _ (legible_iff key mnemonic operands).symm

theorem joined_ne_nil {first : Text} (nonempty : first ≠ []) (rest : List Text) :
    Text.joined "," (first :: rest) ≠ [] := by
  cases rest with
  | nil => rwa [joined_singleton]
  | cons second rest =>
    rw [joined_cons_cons]
    exact List.append_ne_nil_of_left_ne_nil nonempty _

/-- Tokens joined by commas are met by no other operands without commas. -/
theorem eq_of_joined {tokens operands : List Text} (some : tokens ≠ []) (others : operands ≠ [])
    (passes : ∀ token ∈ tokens, Passes atComma {} token)
    (closed : ∀ operand ∈ operands, ',' ∉ operand ∧ operand.foldl step {} = {})
    (same : Text.joined "," tokens = Text.joined "," operands) : tokens = operands := by
  have stops : atComma {} ',' = true := rfl
  induction tokens generalizing operands with
  | nil => exact absurd rfl some
  | cons token tokens ih =>
    cases operands with
    | nil => exact absurd rfl others
    | cons operand operands =>
      obtain ⟨first, tokensPass⟩ := List.forall_mem_cons.1 passes
      obtain ⟨⟨commaless, shut⟩, operandsClosed⟩ := List.forall_mem_cons.1 closed
      cases tokens with
      | nil =>
        cases operands with
        | nil =>
          rw [joined_singleton, joined_singleton] at same
          rw [same]
        | cons next operands =>
          rw [joined_singleton, joined_cons_cons] at same
          rw [same] at first
          exact absurd first (not_passes_append stops shut)
      | cons next tokens =>
        cases operands with
        | nil =>
          rw [joined_singleton, joined_cons_cons] at same
          simp [← same] at commaless
        | cons following operands =>
          rw [joined_cons_cons, joined_cons_cons] at same
          obtain ⟨rfl, rests⟩ := eq_of_cut stops first shut commaless same
          rw [ih (List.cons_ne_nil _ _) (List.cons_ne_nil _ _) tokensPass operandsClosed rests]

namespace Legible

variable {key mnemonic other : Text} {operands : List Text}

/-- A key with a blank behind a mnemonic is read with this mnemonic. -/
theorem of_spaced (legible : Legible key mnemonic operands) (passes : Passes atBlank {} other)
    {rest : Text} (same : key = spaced other rest) :
    mnemonic = other ∧ operands ≠ [] ∧ rest = Text.joined "," operands := by
  have stops : atBlank {} ' ' = true := rfl
  obtain ⟨blankless, shut⟩ := legible.mnemonic_closed
  cases operands with
  | nil =>
    have bare : mnemonic = other ++ ' ' :: rest := legible.key_eq.symm.trans same
    simp [bare] at blankless
  | cons first others =>
    obtain ⟨nonempty, -⟩ := legible.operand_closed first List.mem_cons_self
    have whole := legible.key_eq
    rw [keyOf_of_ne_nil _ (joined_ne_nil nonempty others)] at whole
    obtain ⟨rfl, rests⟩ := eq_of_cut stops passes shut blankless (same.symm.trans whole)
    exact ⟨rfl, List.cons_ne_nil _ _, rests⟩

/-- **A key of the table has one reading**: only its own mnemonic and its own operands make it. -/
theorem unique (legible : Legible key mnemonic operands) (passes : Passes atBlank {} other)
    {tokens : List Text} (are : ∀ token ∈ tokens, IsToken token)
    (same : key = keyOf other (Text.joined "," tokens)) :
    mnemonic = other ∧ operands = tokens := by
  cases tokens with
  | nil =>
    have bare : key = other := same
    cases operands with
    | nil => exact ⟨legible.key_eq.symm.trans bare, rfl⟩
    | cons first others =>
      obtain ⟨nonempty, -⟩ := legible.operand_closed first List.mem_cons_self
      have whole := legible.key_eq
      rw [keyOf_of_ne_nil _ (joined_ne_nil nonempty others), bare] at whole
      rw [whole] at passes
      have stops : atBlank {} ' ' = true := rfl
      exact absurd passes (not_passes_append stops legible.mnemonic_closed.2)
  | cons token tokens =>
    rw [keyOf_of_ne_nil _ (joined_ne_nil (are token List.mem_cons_self).nonempty tokens)] at same
    obtain ⟨mnemonics, some, rests⟩ := legible.of_spaced passes same
    refine ⟨mnemonics, (eq_of_joined (List.cons_ne_nil _ _) some ?_ ?_ rests).symm⟩
    · exact fun token member => (are token member).passes
    · exact fun operand member => (legible.operand_closed operand member).2

end Legible

/-! ## What the keys of the table stand for -/

/-- The entry is for an instruction with this mnemonic and so many operands.  Only the loads through
`C` are for another mnemonic than their own. -/
@[mk_iff]
structure Entry.Answers (entry : Entry) (mnemonic : Text) (count : Nat) : Prop where
  mnemonic_eq : entry.mnemonic = mnemonic ∨
    mnemonic = "LDH" ∧ entry.mnemonic = "LD" ∧ (entry.opcode = 0xE2 ∨ entry.opcode = 0xF2)
  operands_length : entry.operands.length = count
  extended_iff : entry.extended = true ↔ mnemonic ∈ extendedMnemonics
  count_le : count ≤ 2

instance (entry : Entry) (mnemonic : Text) (count : Nat) :
    Decidable (entry.Answers mnemonic count) :=
  decidable_of_iff _ (Entry.answers_iff entry mnemonic count).symm

namespace Table

theorem key_of_findIn {listed : List Listed} {key : Text} {entry : Entry}
    (found : findIn listed key = some entry) :
    entry ∈ listed.map Listed.entry ∧ key = entry.key := by
  obtain ⟨item, chosen, rfl⟩ := Option.map_eq_some_iff.1 found
  have same : item.key = key := beq_iff_eq.1 (List.find?_some chosen :)
  exact ⟨List.mem_map_of_mem (List.mem_of_find?_eq_some chosen), same ▸ item.key_eq⟩

/-- What stands under a key has it for its own or is another spelling. -/
theorem key_of_under? {table : Table} {mnemonic key : Text} {entry : Entry}
    (found : table.under? mnemonic key = some entry) :
    entry ∈ table.entries ∧ key = entry.key ∨ (key, entry) ∈ table.spellings := by
  rw [entries, List.map_append]
  rw [under?] at found
  split at found
  · obtain ⟨member, same⟩ := key_of_findIn found
    exact .inl ⟨List.mem_append_right _ member, same⟩
  · rcases Option.or_eq_some_iff.1 found with there | ⟨-, spelled⟩
    · obtain ⟨member, same⟩ := key_of_findIn there
      exact .inl ⟨List.mem_append_left _ member, same⟩
    · obtain ⟨before, behind, whole, -⟩ := List.lookup_eq_some_iff.1 spelled
      rw [whole]
      exact .inr (List.mem_append_right before List.mem_cons_self)

/-- Every key of the table can be read, and its entry is for the instruction that is read. -/
theorem exists_reading {mnemonic key : Text} {entry : Entry}
    (found : standard.under? mnemonic key = some entry) :
    ∃ named operands, Legible key named operands ∧ entry.Answers named operands.length := by
  rcases key_of_under? found with ⟨member, same⟩ | spelled
  · have each : ∀ entry ∈ standard.entries, Legible entry.key entry.mnemonic entry.operands ∧
        entry.Answers entry.mnemonic entry.operands.length := by
      decide +kernel
    obtain ⟨legible, answers⟩ := each entry member
    exact ⟨entry.mnemonic, entry.operands, same ▸ legible, answers⟩
  · have each : ∀ spelling ∈ standard.spellings,
        ∃ reading ∈ ([("LDH", ["[C]", "A"]), ("LDH", ["A", "[C]"]), ("JP", ["[HL]"])] :
            List (Text × List Text)),
          Legible spelling.1 reading.1 reading.2 ∧
            spelling.2.Answers reading.1 reading.2.length := by
      decide
    obtain ⟨reading, -, legible, answers⟩ := each _ spelled
    exact ⟨reading.1, reading.2, legible, answers⟩

end Table

/-! ## What the keys that are tried are made of -/

section Keys

variable {mnemonic key : Text} {operands forms : List Text}

theorem isToken_of_mem_substitutes {form other : Text} (among : other ∈ substitutes form) :
    IsToken other := by
  have each : ∀ other ∈ memoryForms ++ anyForms, IsToken other := by decide
  apply each
  rw [substitutes] at among
  split at among
  · exact List.mem_append_left _ among
  · exact List.mem_append_right _ among

theorem isToken_decimal {operand : Text} {bit : Nat} (tried : bit ∈ bitsToTry operand) :
    IsToken (Numeral.decimal bit) := by
  have each : ∀ bit < 8, IsToken (Numeral.decimal bit) := by decide
  apply each
  rcases List.mem_append.1 tried with named | counted
  · obtain ⟨value, -, within⟩ := Option.bind_eq_some_iff.1 (Option.mem_toList.1 named)
    split at within
    · cases within
      omega
    · cases within
  · exact List.mem_range.1 counted

theorem isToken_of_mem_pairsTried {first second : Text} (here : IsToken first)
    (there : IsToken second) {pair : Text × Text} (tried : pair ∈ pairsTried first second) :
    IsToken pair.1 ∧ IsToken pair.2 := by
  rcases List.mem_append.1 tried with seconds | tried
  · obtain ⟨other, among, rfl⟩ := List.mem_map.1 seconds
    refine ⟨here, ?_⟩
    simp only [List.mem_cons] at among
    rcases among with rfl | rfl | among
    · exact there
    · exact there
    · exact isToken_of_mem_substitutes (List.mem_of_mem_filter among)
  rcases List.mem_append.1 tried with firsts | tried
  · have each : ∀ other ∈ (["[A8]", "[A16]"] : List Text), IsToken other := by decide
    obtain ⟨other, among, rfl⟩ := List.mem_map.1 firsts
    exact ⟨each other among, there⟩
  · have each : ∀ pair ∈ ([("[HL]", "D8"), ("HL", "SP+R8")] : List (Text × Text)),
        IsToken pair.1 ∧ IsToken pair.2 := by decide
    refine each pair ?_
    rcases List.mem_cons.1 tried with rfl | offset
    · exact List.mem_cons_self
    · split at offset
      · exact List.mem_cons_of_mem _ offset
      · cases offset

/-- The key is made of the mnemonic and so many tokens. -/
def MadeOf (key mnemonic : Text) (count : Nat) : Prop :=
  ∃ tokens : List Text, tokens.length = count ∧ (∀ token ∈ tokens, IsToken token) ∧
    key = keyOf mnemonic (Text.joined "," tokens)

theorem MadeOf.of_single {token : Text} (is : IsToken token) :
    MadeOf (spaced mnemonic token) mnemonic 1 := by
  refine ⟨[token], rfl, List.forall_mem_singleton.2 is, ?_⟩
  rw [joined_singleton, keyOf_of_ne_nil _ is.nonempty]

theorem MadeOf.of_pair {pair : Text × Text} (are : IsToken pair.1 ∧ IsToken pair.2) :
    MadeOf (pairKey mnemonic pair) mnemonic 2 :=
  ⟨[pair.1, pair.2], rfl, by simp [are], keyOf_pair.symm⟩

/-- The keys for one operand, unless it names a restart. -/
theorem madeOf_of_single {operand form : Text} (is : IsToken form)
    (tried : key ∈ keysTried mnemonic [operand] [form])
    (other : restartOf? mnemonic [operand] = none) : MadeOf key mnemonic 1 := by
  have own : keyOf mnemonic (Text.joined "," [form]) = spaced mnemonic form := by
    rw [joined_singleton, keyOf_of_ne_nil _ is.nonempty]
  rw [keysTried, other] at tried
  split at tried
  · rw [extendedCandidates, own] at tried
    obtain rfl : key = spaced mnemonic form := by simpa using tried
    exact .of_single is
  · rw [own] at tried
    rcases List.mem_cons.1 tried with rfl | tried
    · exact .of_single is
    · obtain ⟨token, among, rfl⟩ := List.mem_map.1 tried
      rcases List.mem_cons.1 among with rfl | among
      · exact .of_single is
      · exact .of_single (isToken_of_mem_substitutes among)

/-- The keys for two operands. -/
theorem madeOf_of_pair {operand other first second : Text} (here : IsToken first)
    (there : IsToken second)
    (tried : key ∈ keysTried mnemonic [operand, other] [first, second]) :
    MadeOf key mnemonic 2 := by
  cases kind : extendedMnemonics.contains mnemonic with
  | false =>
    rw [keysTried_pair kind] at tried
    obtain ⟨pair, among, rfl⟩ := List.mem_map.1 tried
    exact .of_pair (isToken_of_mem_pairsTried here there among)
  | true =>
    rw [keysTried_bits kind] at tried
    obtain ⟨pair, among, rfl⟩ := List.mem_map.1 tried
    apply MadeOf.of_pair
    rcases List.mem_cons.1 among with rfl | bits
    · exact ⟨here, there⟩
    · split at bits
      · obtain ⟨bit, counted, rfl⟩ := List.mem_map.1 bits
        exact ⟨isToken_decimal counted, there⟩
      · cases bits

/-- A key that is tried is made of the mnemonic and as many tokens as there are operands, unless it
is that of a restart. -/
theorem madeOf_of_mem_keysTried (are : ∀ form ∈ forms, IsToken form)
    (length : operands.length = forms.length) (tried : key ∈ keysTried mnemonic operands forms) :
    MadeOf key mnemonic operands.length ∨
      mnemonic = "RST" ∧ operands.length = 1 ∧ ∃ vector, key = spaced "RST" vector := by
  match operands, forms, length with
  | [], [], _ =>
    refine .inl ⟨[], rfl, are, ?_⟩
    rw [keysTried] at tried
    split at tried
    · simpa [extendedCandidates] using tried
    · simpa [restartOf?, candidates, keyOf] using tried
  | [operand], [form], _ =>
    cases restart : restartOf? mnemonic [operand] with
    | none => exact .inl (madeOf_of_single (are form List.mem_cons_self) tried restart)
    | some vector =>
      have named := restart
      rw [restartOf?] at named
      split at named
      · next mnemonics =>
        refine .inr ⟨mnemonics, rfl, vector, ?_⟩
        rw [keysTried, restart, mnemonics, if_neg (by decide)] at tried
        exact List.mem_singleton.1 tried
      · cases named
  | [operand, other], [first, second], _ =>
    exact .inl (madeOf_of_pair (are first (by simp)) (are second (by simp)) tried)
  | first :: second :: third :: operands, one :: two :: three :: forms, lengths =>
    refine .inl ⟨one :: two :: three :: forms, lengths.symm, are, ?_⟩
    rw [keysTried] at tried
    split at tried <;> exact List.mem_singleton.1 tried

end Keys

/-! ## Instructions that are found -/

theorem Entry.Answers.count_of_restart {entry : Entry} {count : Nat}
    (member : entry ∈ Table.standard.entries) (answers : entry.Answers "RST" count) :
    count = 1 := by
  have each : ∀ entry ∈ Table.standard.entries, entry.mnemonic = "RST" →
      entry.operands.length = 1 := by
    decide +kernel
  have own : entry.mnemonic = "RST" := answers.mnemonic_eq.resolve_right fun other =>
    absurd other.1 (by decide)
  exact answers.operands_length.symm.trans (each entry member own)

theorem forall_isToken {operands forms : List Text}
    (are : ∀ operand ∈ operands, Line.IsOperand operand)
    (reads : List.Forall₂ (fun operand form => Operand.form operand = .ok form) operands forms) :
    ∀ form ∈ forms, IsToken form := by
  induction reads with
  | nil => exact nofun
  | cons formed _ ih =>
    obtain ⟨first, others⟩ := List.forall_mem_cons.1 are
    exact List.forall_mem_cons.2 ⟨Operand.isToken_form first formed, ih others⟩

/-- What is found for a mnemonic in capitals with operands that were split off is an entry for
them. -/
theorem answers_of_lookup {mnemonic word : Text} {operands : List Text} {entry : Entry}
    (capitals : mnemonic = Text.upper word) (passes : Passes atBlank {} mnemonic)
    (are : ∀ operand ∈ operands, Line.IsOperand operand)
    (found : Table.standard.lookup mnemonic operands = .ok (some entry)) :
    entry.Answers mnemonic operands.length := by
  obtain ⟨forms, read, found⟩ := Fault.bind_eq_ok.1 found
  have reads := forall₂_of_mapM read
  have tokens := forall_isToken are reads
  have found' : Table.standard.find? (Text.upper mnemonic) operands forms = some entry :=
    Except.ok.inj found
  rw [Table.find?_eq] at found'
  obtain ⟨key, chosen, there⟩ := Option.bind_eq_some_iff.1 found'
  obtain ⟨named, listed, legible, answers⟩ := Table.exists_reading there
  have same : Text.upper mnemonic = mnemonic := by rw [capitals, Text.upper_upper]
  rw [same] at chosen
  rcases madeOf_of_mem_keysTried tokens reads.length_eq (List.mem_of_find?_eq_some chosen) with
    ⟨parts, length, areTokens, made⟩ | ⟨restart, length, vector, made⟩
  · obtain ⟨mnemonics, operandsSame⟩ := legible.unique passes areTokens made
    rw [← length, ← operandsSame, ← mnemonics]
    exact answers
  · rw [restart] at passes ⊢
    obtain ⟨mnemonics, -, -⟩ := legible.of_spaced passes made
    rw [mnemonics] at answers
    rw [length, ← Entry.Answers.count_of_restart (Table.mem_of_under? there) answers]
    exact answers

end Opcode

namespace Line

theorem passes_splitMnemonic (code : Text) : Passes atBlank {} (splitMnemonic code).1 := by
  rw [splitMnemonic]
  exact passes_breakAt (Text.trim code)

end Line

namespace Opcode

open Line (parse)

/-- **An instruction that is found is the one that was written.**  The entry has the mnemonic of the
line, as many operands as the line, at most two, and it is extended exactly if the mnemonic is.
Only `LDH` may lead to the two loads through `C`, which are listed under `LD`. -/
theorem answers_of_parse {isMacro : Text → Bool} {number : Int} {raw : Text} {line : Line}
    {operation : Operation} {entry : Entry} (parsed : parse isMacro number raw = .ok line)
    (holds : line.operation = some operation)
    (found : Table.standard.lookup operation.mnemonic operation.operands = .ok (some entry)) :
    (entry.mnemonic = operation.mnemonic ∨
      operation.mnemonic = "LDH" ∧ entry.mnemonic = "LD" ∧
        (entry.opcode = 0xE2 ∨ entry.opcode = 0xF2)) ∧
      entry.operands.length = operation.operands.length ∧
      (entry.extended = true ↔ operation.mnemonic ∈ extendedMnemonics) ∧
      operation.operands.length ≤ 2 := by
  obtain ⟨read, given, rfl⟩ := Line.parse_eq_ok.1 parsed
  cases holds
  obtain ⟨mnemonic, operands, -⟩ := Line.operationOf_eq_some given
  have passes := (retraces_upper atBlank_of_not_mem_separators _).passes proper_start
    (Line.passes_splitMnemonic (Line.labelAndCode (Text.trim (Line.codePart raw))).2)
  have are := (Line.operandList_splitOperands
    (Line.splitMnemonic (Line.labelAndCode (Text.trim (Line.codePart raw))).2).2).isOperand
  rw [← mnemonic] at passes
  rw [← operands] at are
  obtain ⟨own, length, extended, few⟩ := answers_of_lookup mnemonic passes are found
  exact ⟨own, length, extended, few⟩

/-- A load through `C` is found for the mnemonic `LDH`. -/
theorem answers_of_parse_load_through_c :
    ∃ line operation entry, parse (fun _ => false) 0 " ldh a, (c)" = .ok line ∧
      line.operation = some operation ∧
      Table.standard.lookup operation.mnemonic operation.operands = .ok (some entry) ∧
      entry.mnemonic ≠ operation.mnemonic ∧ entry.opcode = 0xF2 ∧
      entry.operands.length = operation.operands.length ∧
      (entry.extended = true ↔ operation.mnemonic ∈ extendedMnemonics) := by
  have parsed : parse (fun _ => false) 0 " ldh a, (c)" =
      .ok { number := 0, raw := " ldh a, (c)",
            operation := some ⟨"LDH", ["a", "(c)"], .instruction⟩ } := by
    decide +kernel
  have found : Table.standard.lookup "LDH" ["a", "(c)"] =
      .ok (some (plain 0xF2 "LD" ["A", "[C]"] 1 8 "----")) := by
    decide +kernel
  obtain ⟨-, length, extended, -⟩ := answers_of_parse parsed rfl found
  exact ⟨_, _, _, parsed, rfl, found, by decide, rfl, length, extended⟩

end Opcode

end Sm83Cost
