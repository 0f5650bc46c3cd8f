import Sm83Cost.Proofs.Opcode.Forms
import Sm83Cost.Proofs.Traversal

/-!
# Which instructions keep their operands

Operands are replaced one after another until some key is in the table, so an entry
may be found that does not keep them.  Which it is depends on the table alone: either
the table provides an entry whose operands suit those of the instruction, or the
instruction has no fixed operand to lose (`Table.keeps_iff`).  In all other cases the
instruction is taken for another one, like a load from memory into a register pair,
which becomes a store (`Table.load_becomes_store`).
-/

namespace Sm83Cost

set_option autoImplicit false

open Operand (isMemory isMemory_iff isFixed)

namespace Opcode

/-! ## Two operands -/

/-- The key of two operands. -/
def pairKey (mnemonic : Text) (pair : Text × Text) : Text :=
  spaced mnemonic (pair.1 ++ ',' :: pair.2)

/-- The pairs of operands that are tried for an unprefixed instruction, in order. -/
def pairsTried (first second : Text) : List (Text × Text) :=
  (second :: second :: (substitutes second).filter (· != ("[HL]" : Text))).map (first, ·)
    ++ ((["[A8]", "[A16]"] : List Text).map (·, second)
    ++ (("[HL]".toList, "D8".toList) ::
      if first = "HL" && Text.includes "SP" second then [("HL".toList, "SP+R8".toList)] else []))

section Pairs

variable {mnemonic first second : Text} {pairs : List (Text × Text)} {entry : Entry}

/-- The first pair that the table lists. -/
def firstListed? (mnemonic : Text) (pairs : List (Text × Text)) : Option (Text × Text) :=
  pairs.find? fun pair => decide (Lists mnemonic [pair.1, pair.2])

theorem mem_of_firstListed? {pair : Text × Text}
    (chosen : firstListed? mnemonic pairs = some pair) :
    pair ∈ pairs ∧ Lists mnemonic [pair.1, pair.2] :=
  ⟨List.mem_of_find?_eq_some chosen, of_decide_eq_true (List.find?_some chosen :)⟩

/-- The first pair of two lists is in the first list, or the first list has none. -/
theorem firstListed?_append {others : List (Text × Text)} {pair : Text × Text} :
    firstListed? mnemonic (pairs ++ others) = some pair ↔
      firstListed? mnemonic pairs = some pair ∨
        (∀ earlier ∈ pairs, ¬ Lists mnemonic [earlier.1, earlier.2]) ∧
          firstListed? mnemonic others = some pair := by
  rw [firstListed?, List.find?_append, Option.or_eq_some_iff, List.find?_eq_none]
  simp only [decide_eq_true_eq]
  rfl

theorem firstListed?_cons {next pair : Text × Text} :
    firstListed? mnemonic (next :: pairs) = some pair ↔
      Lists mnemonic [next.1, next.2] ∧ pair = next ∨
        ¬ Lists mnemonic [next.1, next.2] ∧ firstListed? mnemonic pairs = some pair := by
  rw [firstListed?, List.find?_cons]
  by_cases listed : Lists mnemonic [next.1, next.2]
  · simp [listed, eq_comm]
  · simp [listed, firstListed?]

/-- The entry found under its own key has the first pair of operands that is listed. -/
theorem exists_firstListed? (member : entry ∈ Table.standard.entries)
    (found : (pairs.map (pairKey mnemonic)).find?
      (fun key => (Table.standard.under? mnemonic key).isSome) = some entry.key) :
    ∃ pair, firstListed? mnemonic pairs = some pair ∧ entry.operands = [pair.1, pair.2] := by
  rw [List.find?_map] at found
  obtain ⟨pair, chosen, same⟩ := Option.map_eq_some_iff.1 found
  obtain ⟨-, before, after, whole, missed⟩ := List.find?_eq_some_iff_append.1 chosen
  obtain ⟨mnemonics, operands⟩ := (Table.plain_of_standard member).operands_of_pair same.symm
  refine ⟨pair, List.find?_eq_some_iff_append.2 ⟨?_, before, after, whole, ?_⟩, operands⟩
  · exact decide_eq_true ⟨entry, member, mnemonics, operands⟩
  · intro earlier there
    rw [Bool.not_eq_true', decide_eq_false_iff_not]
    intro listed
    have miss := missed earlier there
    rw [Function.comp_apply, pairKey, listed.found_pair] at miss
    cases miss

/-- How the pair that is found for an unprefixed instruction comes about. -/
theorem cases_of_unprefixed {pair : Text × Text}
    (chosen : firstListed? mnemonic (pairsTried first second) = some pair) :
    pair = (first, second) ∨ ¬ Lists mnemonic [first, second] ∧
      ((∃ other ∈ substitutes second, other ≠ "[HL]".toList ∧ pair = (first, other)) ∨
      (∃ other ∈ (["[A8]", "[A16]"] : List Text), pair = (other, second)) ∨
      (∀ form ∈ substitutes second, form ≠ "[HL]".toList → ¬ Lists mnemonic [first, form]) ∧
        (∀ form ∈ (["[A8]", "[A16]"] : List Text), ¬ Lists mnemonic [form, second]) ∧
        pair = ("[HL]".toList, "D8".toList)) := by
  rw [pairsTried, List.map_cons, List.cons_append, firstListed?_cons] at chosen
  rcases chosen with ⟨-, rfl⟩ | ⟨missed, chosen⟩
  · exact .inl rfl
  refine .inr ⟨missed, ?_⟩
  rcases firstListed?_append.1 chosen with here | ⟨seconds, chosen⟩
  · obtain ⟨inside, listed⟩ := mem_of_firstListed? here
    obtain ⟨other, among, rfl⟩ := List.mem_map.1 inside
    rcases List.mem_cons.1 among with rfl | among
    · exact absurd listed missed
    · obtain ⟨member, differs⟩ := List.mem_filter.1 among
      exact .inl ⟨other, member, bne_iff_ne.1 differs, rfl⟩
  rcases firstListed?_append.1 chosen with here | ⟨firsts, chosen⟩
  · obtain ⟨other, among, rfl⟩ := List.mem_map.1 (mem_of_firstListed? here).1
    exact .inr (.inl ⟨other, among, rfl⟩)
  rcases firstListed?_cons.1 chosen with ⟨-, rfl⟩ | ⟨missed', chosen⟩
  · refine .inr (.inr ⟨fun form among differs => ?_, fun form among => ?_, rfl⟩)
    · exact seconds (first, form) (List.mem_map.2 ⟨form,
        List.mem_cons_of_mem _ (List.mem_filter.2 ⟨among, bne_iff_ne.2 differs⟩), rfl⟩)
    · exact firsts (form, second) (List.mem_map.2 ⟨form, among, rfl⟩)
  · -- The last pair is never reached: what lists it also lists the pair before it.
    obtain ⟨inside, listed⟩ := mem_of_firstListed? chosen
    split at inside
    · cases List.mem_singleton.1 inside
      exact absurd (value_of_offset listed).2 missed'
    · cases inside

/-- The pair that is found for an unprefixed instruction fits. -/
theorem fits_of_unprefixed (unprefixed : extendedMnemonics.contains mnemonic = false)
    {pair : Text × Text}
    (chosen : firstListed? mnemonic (pairsTried first second) = some pair) :
    Fits mnemonic [first, second] [pair.1, pair.2] := by
  have listed := (mem_of_firstListed? chosen).2
  obtain rfl | ⟨missed, ⟨other, among, differs, rfl⟩ | ⟨other, among, rfl⟩ |
    ⟨seconds, firsts, rfl⟩⟩ := cases_of_unprefixed chosen
  · exact fits_of_forms listed
  · obtain ⟨loose, memory⟩ := loose_of_mem_substitutes among
    have fixed : isFixed first = true := by
      by_contra unfixed
      have second' := (first_of_unprefixed unprefixed listed (Bool.eq_false_iff.2 unfixed)).1
      rw [loose differs] at second'
      cases second'
    exact fits_of_second missed listed fixed (loose differs) memory
  · have plain : ∀ form ∈ (["[A8]", "[A16]"] : List Text),
        isFixed form = false ∧ isMemory form = true := by decide
    obtain ⟨loose, memory⟩ := plain other among
    apply fits_of_first missed listed loose (first_of_unprefixed unprefixed listed loose).1
    intro token listed' loose'
    rw [memory, (first_of_unprefixed unprefixed listed' loose').2.1]
  · exact fits_of_both unprefixed listed missed seconds firsts

/-- The pair that is found for an extended instruction fits. -/
theorem fits_of_extended (extended : extendedMnemonics.contains mnemonic = true)
    {pair : Text × Text} (bits : ∀ other ∈ pairs, other.2 = second)
    (chosen : firstListed? mnemonic ((first, second) :: pairs) = some pair) :
    Fits mnemonic [first, second] [pair.1, pair.2] := by
  have listed := (mem_of_firstListed? chosen).2
  rcases firstListed?_cons.1 chosen with ⟨-, rfl⟩ | ⟨missed, chosen⟩
  · exact fits_of_forms listed
  · obtain ⟨other, same⟩ := pair
    cases bits _ (mem_of_firstListed? chosen).1
    obtain ⟨loose, plain, fixed⟩ := places_of_extended extended listed
    apply fits_of_first missed listed loose fixed
    intro token listed' _
    rw [plain, (places_of_extended extended listed').2.1]

end Pairs

section Keys

variable {mnemonic bit operand first second form : Text} {entry : Entry}

theorem keyOf_pair :
    keyOf mnemonic (Text.joined "," [first, second]) = pairKey mnemonic (first, second) := by
  rw [joined_pair]
  exact keyOf_of_ne_nil _ (by simp)

theorem keysTried_pair (unprefixed : extendedMnemonics.contains mnemonic = false) :
    keysTried mnemonic [bit, operand] [first, second] =
      (pairsTried first second).map (pairKey mnemonic) := by
  rw [keysTried, unprefixed, if_neg Bool.false_ne_true, keyOf_pair, pairsTried]
  simp only [restartOf?, candidates, List.map_cons, List.map_append, List.map_map, List.cons_append,
    List.append_assoc]
  split <;> rfl

theorem keysTried_bits (extended : extendedMnemonics.contains mnemonic = true) :
    keysTried mnemonic [bit, operand] [first, second] =
      ((first, second) ::
        if bitInstructions.contains mnemonic then
          (bitsToTry bit).map fun n => (Numeral.decimal n, second)
        else []).map (pairKey mnemonic) := by
  rw [keysTried, if_pos extended, extendedCandidates, keyOf_pair, List.map_cons]
  split <;> simp [pairKey]

/-- Two operands that are found fit. -/
theorem fits_of_pair (member : entry ∈ Table.standard.entries)
    (own : Table.standard.keyFound? mnemonic [bit, operand] [first, second] = some entry.key) :
    Fits mnemonic [first, second] entry.operands := by
  rw [Table.keyFound?] at own
  cases kind : extendedMnemonics.contains mnemonic with
  | false =>
    rw [keysTried_pair kind] at own
    obtain ⟨pair, chosen, operands⟩ := exists_firstListed? member own
    rw [operands]
    exact fits_of_unprefixed kind chosen
  | true =>
    rw [keysTried_bits kind] at own
    obtain ⟨pair, chosen, operands⟩ := exists_firstListed? member own
    rw [operands]
    apply fits_of_extended kind _ chosen
    intro other there
    split at there
    · obtain ⟨n, -, rfl⟩ := List.mem_map.1 there
      rfl
    · cases there

/-! ## One operand -/

/-- No form that is tried for a fixed operand holds a comma. -/
theorem commaless_of_isFixed {other : Text} (fixed : isFixed form = true)
    (among : other ∈ form :: substitutes form) : ',' ∉ other := by
  have each : ∀ other ∈ Operand.fixedForms ++ memoryForms ++ anyForms, ',' ∉ other := by decide
  apply each
  simp only [List.mem_append]
  rcases List.mem_cons.1 among with rfl | among
  · exact .inl (.inl (List.contains_iff_mem.1 fixed))
  · rw [substitutes] at among
    split at among
    · exact .inl (.inr among)
    · exact .inr among

/-- An operand in brackets is kept by whatever is found under a key in brackets. -/
theorem memory_of_key (member : entry ∈ Table.standard.entries)
    (key : entry.key = spaced mnemonic form) (memory : isMemory form = true) :
    entry.operands[0]?.any isMemory = true := by
  obtain ⟨-, operands | ⟨first, second, operands, nonempty, whole⟩⟩ :=
    (Table.plain_of_standard member).operands_of_single key
  · rw [operands]
    exact memory
  · rw [operands]
    obtain ⟨rest, bracket⟩ := isMemory_iff.1 memory
    cases first with
    | nil => exact absurd rfl nonempty
    | cons c others =>
      rw [whole] at bracket
      cases bracket
      rfl

/-- One operand that is not fixed fits as long as it stays in brackets. -/
theorem fits_of_loose (loose : isFixed form = false)
    (memory : isMemory form = true → entry.operands[0]?.any isMemory = true) :
    Fits mnemonic [form] entry.operands :=
  iff_of_true (keeps_single.2 (.of_loose loose memory)) (.inl (loose_single.2 loose))

/-- One fixed operand is kept exactly if the table has it at its place. -/
theorem fits_of_fixed (fixed : isFixed form = true)
    (keeps : entry.operands[0]? = some form ↔ Lists mnemonic [form]) :
    Fits mnemonic [form] entry.operands := by
  have tight : ¬ Loose [form] := by
    rw [loose_single, fixed]
    exact Bool.noConfusion
  rw [Fits, or_iff_right tight, keeps_single, provided_single]
  constructor
  · intro keeps'
    exact ⟨form, keeps.1 (keeps'.fixed fixed), .inl rfl⟩
  · rintro ⟨token, listed, suits⟩
    cases suits.eq_of_fixed fixed
    rw [keeps.2 listed]
    exact .refl form

/-- One operand that is found under its form or one it may stand for fits. -/
theorem fits_of_tokens (others : List Text) (member : entry ∈ Table.standard.entries)
    (tried : ∀ other ∈ others, other ∈ form :: substitutes form)
    (own : ((form :: others).map (spaced mnemonic)).find?
      (fun key => (Table.standard.under? mnemonic key).isSome) = some entry.key) :
    Fits mnemonic [form] entry.operands := by
  obtain ⟨other, inside, key⟩ := List.mem_map.1 (List.mem_of_find?_eq_some own)
  have among : other ∈ form :: substitutes form := by
    rcases List.mem_cons.1 inside with rfl | later
    · exact List.mem_cons_self
    · exact tried other later
  cases fixed : isFixed form with
  | false =>
    refine fits_of_loose fixed fun memory => memory_of_key member key.symm ?_
    rcases List.mem_cons.1 among with rfl | among
    · exact memory
    · exact (loose_of_mem_substitutes among).2 memory
  | true =>
    have plain := Table.plain_of_standard member
    apply fits_of_fixed fixed
    constructor
    · intro kept
      obtain ⟨mnemonics, operands⟩ :=
        plain.operands_of_commaless key.symm (commaless_of_isFixed fixed among)
      rw [operands] at kept
      cases kept
      exact ⟨entry, member, mnemonics, operands⟩
    · intro listed
      rw [List.map_cons, List.find?_cons, listed.found_single] at own
      rw [(plain.operands_of_commaless (Option.some.inj own).symm
        (commaless_of_isFixed fixed List.mem_cons_self)).2]
      rfl

/-- The vector of a restart is no fixed operand. -/
theorem fits_of_restart {vector : Text} (member : entry ∈ Table.standard.entries)
    (plain : isMemory form = false) (key : entry.key = spaced "RST" vector) :
    Fits "RST" [form] entry.operands := by
  have vectors : ∀ entry ∈ Table.standard.entries, entry.mnemonic = "RST".toList →
      ∀ token ∈ entry.operands, isFixed token = false := by
    decide +kernel
  cases fixed : isFixed form with
  | false =>
    refine fits_of_loose fixed fun memory => ?_
    rw [plain] at memory
    cases memory
  | true =>
    apply fits_of_fixed fixed
    have mnemonic := ((Table.plain_of_standard member).of_key key).1
    refine iff_of_false (fun kept => ?_) fun ⟨other, member', mnemonic', operands⟩ => ?_
    · rw [vectors entry member mnemonic form (List.mem_of_getElem? kept)] at fixed
      cases fixed
    · rw [vectors other member' mnemonic' form (operands ▸ List.mem_singleton_self form)] at fixed
      cases fixed

/-- One operand that is found fits. -/
theorem fits_of_single (read : Operand.form operand = .ok form)
    (member : entry ∈ Table.standard.entries)
    (own : Table.standard.keyFound? mnemonic [operand] [form] = some entry.key) :
    Fits mnemonic [form] entry.operands := by
  by_cases empty : form = []
  · subst empty
    exact fits_of_loose rfl Bool.noConfusion
  have direct : keyOf mnemonic (Text.joined "," [form]) = spaced mnemonic form := by
    rw [Line.joined_singleton, keyOf_of_ne_nil _ empty]
  rw [Table.keyFound?, keysTried] at own
  split at own
  · rw [extendedCandidates, direct] at own
    exact fits_of_tokens [form] member (by simp) own
  · split at own
    · next vector named =>
      rw [restartOf?] at named
      split at named
      · next restart =>
        obtain ⟨value, literal, -⟩ := Option.bind_eq_some_iff.1 named
        have key := List.mem_singleton.1 (List.mem_of_find?_eq_some own)
        rw [restart]
        exact fits_of_restart member (Operand.isMemory_of_value? read literal) key
      · cases named
    · rw [direct] at own
      exact fits_of_tokens (form :: substitutes form) member (fun _ among => among) own

/-- Three operands are never found. -/
theorem not_found_of_three {other third : Text} {operands forms : List Text}
    (member : entry ∈ Table.standard.entries) :
    Table.standard.keyFound? mnemonic (bit :: operand :: other :: operands)
      (first :: second :: third :: forms) ≠ some entry.key := by
  intro own
  have keys : keysTried mnemonic (bit :: operand :: other :: operands)
      (first :: second :: third :: forms) =
        [spaced mnemonic (first ++ ',' :: Text.joined "," (second :: third :: forms))] := by
    have direct : keyOf mnemonic (Text.joined "," (first :: second :: third :: forms)) =
        spaced mnemonic (first ++ ',' :: Text.joined "," (second :: third :: forms)) := by
      rw [joined_cons_cons, keyOf_of_ne_nil _ (by simp)]
    rw [← direct, keysTried]
    split <;> rfl
  rw [Table.keyFound?, keys] at own
  have plain := Table.plain_of_standard member
  have key := List.mem_singleton.1 (List.mem_of_find?_eq_some own)
  -- The table would have an operand with a comma in it.
  have inside : Text.joined "," (second :: third :: forms) ∈ entry.operands := by
    rw [(plain.operands_of_pair key).2]
    simp
  apply (plain.tokens _ inside).2.2
  rw [joined_cons_cons]
  simp

/-- What is found under its own key fits. -/
theorem fits_of_keyFound {operands forms : List Text}
    (read : List.Forall₂ (fun operand form => Operand.form operand = .ok form) operands forms)
    (member : entry ∈ Table.standard.entries)
    (own : Table.standard.keyFound? mnemonic operands forms = some entry.key) :
    Fits mnemonic forms entry.operands := by
  match operands, forms, read with
  | [], [], _ =>
    refine iff_of_true (fun _ _ there => by cases there) (.inl ⟨?_, ?_⟩)
    · intro form inside
      cases inside
    · intro second there
      cases there
  | [_], [_], .cons read .nil => exact fits_of_single read member own
  | [_, _], [_, _], _ => exact fits_of_pair member own
  | _ :: _ :: _ :: _, _ :: _ :: _ :: _, _ => exact absurd own (not_found_of_three member)

end Keys

/-! ## Instructions that are found -/

theorem forall₂_of_mapM {operands forms : List Text}
    (read : operands.mapM Operand.form = .ok forms) :
    List.Forall₂ (fun operand form => Operand.form operand = .ok form) operands forms :=
  Traversal.mapM_eq_ok.1 read

namespace Table

variable {mnemonic : Text} {operands forms : List Text} {entry : Entry}

theorem mem_of_lookup (read : operands.mapM Operand.form = .ok forms)
    (found : standard.lookup mnemonic operands = .ok (some entry)) :
    entry ∈ standard.entries := by
  rw [lookup, read] at found
  have found' : standard.find? (Text.upper mnemonic) operands forms = some entry :=
    Except.ok.inj found
  rw [find?_eq] at found'
  obtain ⟨key, -, there⟩ := Option.bind_eq_some_iff.1 found'
  exact mem_of_under? there

/-- An instruction that is found under the entry's own key keeps its operands exactly if nothing in
it is fixed and its second operand is no access to memory, or the table provides for it.  An
operand written in brackets is an access to memory. -/
theorem keeps_iff (read : operands.mapM Operand.form = .ok forms)
    (found : standard.lookup mnemonic operands = .ok (some entry))
    (own : standard.keyFound? (Text.upper mnemonic) operands forms = some entry.key) :
    (Keeps forms entry.operands ↔ Loose forms ∨ Provided (Text.upper mnemonic) forms) ∧
      ∀ (index : Nat) (operand form : Text), operands[index]? = some operand →
        forms[index]? = some form → (Text.trim operand).head? = some '[' →
          isMemory form = true := by
  have reads := forall₂_of_mapM read
  refine ⟨fits_of_keyFound reads (mem_of_lookup read found) own, ?_⟩
  intro index operand form written formed bracket
  obtain ⟨inside, rfl⟩ := List.getElem?_eq_some_iff.1 written
  obtain ⟨inside', rfl⟩ := List.getElem?_eq_some_iff.1 formed
  exact Operand.isMemory_form (reads.get inside inside') bracket

/-- A load from memory into the accumulator stays one. -/
theorem keeps_iff_load :
    ∃ entry, standard.lookup "ld" ["a", "[wFoo]"] = .ok (some entry) ∧
      entry.operands = ["A", "[A16]"] ∧ Keeps ["A", "[A16]"] entry.operands := by
  have read : (["a", "[wFoo]"] : List Text).mapM Operand.form = .ok ["A", "[A16]"] := by decide
  have provided : Provided (Text.upper "ld") ["A", "[A16]"] :=
    ⟨["A", "[A16]"], by decide +kernel, .cons (.inl rfl) (.cons (.inl rfl) .nil)⟩
  refine ⟨plain 0xFA "LD" ["A", "[A16]"] 3 16 "----", by decide +kernel, rfl, ?_⟩
  exact (keeps_iff read (by decide +kernel) (by decide +kernel)).1.2 (.inr provided)

/-- A load from memory into a register pair is taken for a store of a value through `HL`: the pair
and the access to memory are lost. -/
theorem load_becomes_store :
    ∃ line operation entry, Line.parse (fun _ => false) 0 " ld bc, [wFoo]" = .ok line ∧
      line.operation = some operation ∧ operation.role = .instruction ∧
      operation.operands.mapM Operand.form = .ok ["BC", "[A16]"] ∧
      standard.lookup operation.mnemonic operation.operands = .ok (some entry) ∧
      standard.keyFound? (Text.upper operation.mnemonic) operation.operands ["BC", "[A16]"] =
        some entry.key ∧
      entry.operands = ["[HL]", "D8"] ∧ ¬ Keeps ["BC", "[A16]"] entry.operands := by
  refine ⟨{ number := 0, raw := " ld bc, [wFoo]", operation := some _ },
    ⟨"LD", ["bc", "[wFoo]"], .instruction⟩, plain 0x36 "LD" ["[HL]", "D8"] 2 12 "----",
    ?_, rfl, rfl, ?_, ?_, ?_, rfl, ?_⟩
  · decide +kernel
  · decide +kernel
  · decide +kernel
  · decide +kernel
  · intro keeps
    cases (keeps 0 "BC" rfl).fixed rfl

end Table

end Opcode

end Sm83Cost
