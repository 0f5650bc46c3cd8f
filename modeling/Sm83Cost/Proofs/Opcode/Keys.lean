import Mathlib.Data.List.Basic
import Mathlib.Tactic.MkIffOfInductiveProp
import Sm83Cost.Proofs.Line.Operands
import Sm83Cost.Proofs.Opcode.Cycles

/-!
# The keys of instructions

An instruction is looked for under several keys, one after another, and the first
that is in the table decides (`Table.find?_eq`).  In the table of the processor a
key tells the mnemonic and the operands of its entry apart, since neither holds a
blank or a comma (`Entry.Plain.operands_of_pair`, `Entry.Plain.operands_of_single`).
So to look under a key is to ask whether the table lists these operands for this
mnemonic (`Lists`).
-/

namespace Sm83Cost.Opcode

set_option autoImplicit false

open Line (joined_cons_of_ne_nil joined_singleton)

/-! ## Looking under keys in order -/

/-- The keys under which an instruction is looked for, in order. -/
def keysTried (mnemonic : Text) (operands forms : List Text) : List Text :=
  if extendedMnemonics.contains mnemonic then extendedCandidates mnemonic operands forms
  else match restartOf? mnemonic operands with
    | some vector => [spaced "RST" vector]
    | none => keyOf mnemonic (Text.joined "," forms) :: candidates mnemonic forms

namespace Table

/-- The entry under a key, among those that a mnemonic may have. -/
def under? (table : Table) (mnemonic key : Text) : Option Entry :=
  if extendedMnemonics.contains mnemonic then table.getExtended? key else table.get? key

/-- The key under which an instruction is found: the first that is in the table. -/
def keyFound? (table : Table) (mnemonic : Text) (operands forms : List Text) : Option Text :=
  (keysTried mnemonic operands forms).find? fun key => (table.under? mnemonic key).isSome

theorem findSome?_eq_bind {α β : Type} (f : α → Option β) (items : List α) :
    items.findSome? f = (items.find? fun item => (f item).isSome).bind f := by
  induction items with
  | nil => rfl
  | cons item rest ih =>
    rw [List.findSome?_cons, List.find?_cons]
    cases found : f item with
    | none => exact ih
    | some value => exact found.symm

/-- What is found is what stands under the key that is found. -/
theorem find?_eq (table : Table) (mnemonic : Text) (operands forms : List Text) :
    table.find? mnemonic operands forms =
      (table.keyFound? mnemonic operands forms).bind (table.under? mnemonic) := by
  rw [keyFound?, ← findSome?_eq_bind, keysTried, find?]
  unfold under?
  split
  · rfl
  · cases restartOf? mnemonic operands with
    | some vector =>
      dsimp only
      rw [List.findSome?_singleton]
    | none => rfl

end Table

/-! ## Plain keys -/

/-- The key of the entry is made of its mnemonic and up to two operands as they are, and none of
them holds a blank or a comma. -/
@[mk_iff]
structure Entry.Plain (entry : Entry) : Prop where
  key : entry.key = keyOf entry.mnemonic (Text.joined "," entry.operands)
  mnemonic : ' ' ∉ entry.mnemonic
  few : entry.operands.length ≤ 2
  tokens : ∀ token ∈ entry.operands, token ≠ [] ∧ ' ' ∉ token ∧ ',' ∉ token

instance : DecidablePred Entry.Plain := fun entry =>
  decidable_of_iff _ (Entry.plain_iff entry).symm

theorem keyOf_of_ne_nil (mnemonic : Text) {operands : Text} (some : operands ≠ []) :
    keyOf mnemonic operands = spaced mnemonic operands :=
  if_neg (by simpa using some)

theorem joined_cons_cons (first second : Text) (rest : List Text) :
    Text.joined "," (first :: second :: rest) =
      first ++ ',' :: Text.joined "," (second :: rest) := by
  rw [joined_cons_of_ne_nil _ _ (List.cons_ne_nil _ _), List.append_assoc]
  rfl

theorem joined_pair (first second : Text) :
    Text.joined "," [first, second] = first ++ ',' :: second := by
  rw [joined_cons_cons, joined_singleton]

namespace Entry.Plain

variable {entry : Entry} {mnemonic : Text}

/-- The key of an entry with operands is the mnemonic, a blank and the operands. -/
theorem key_of_operands (plain : entry.Plain) (some : entry.operands ≠ []) :
    entry.key = spaced entry.mnemonic (Text.joined "," entry.operands) ∧
      ' ' ∉ Text.joined "," entry.operands := by
  obtain ⟨key, -, few, tokens⟩ := plain
  rw [key]
  match operands : entry.operands with
  | [] => exact absurd operands some
  | [token] =>
    obtain ⟨nonempty, blankless, -⟩ := tokens token (by simp [operands])
    rw [joined_singleton, keyOf_of_ne_nil _ nonempty]
    exact ⟨rfl, blankless⟩
  | [first, second] =>
    obtain ⟨nonempty, blankless, -⟩ := tokens first (by simp [operands])
    obtain ⟨-, unblanked, -⟩ := tokens second (by simp [operands])
    rw [joined_pair, keyOf_of_ne_nil _ (by simp)]
    exact ⟨rfl, by simp [blankless, unblanked]⟩
  | _ :: _ :: _ :: _ =>
    rw [operands] at few
    simp at few

/-- A key with a blank tells the mnemonic from the operands. -/
theorem of_key (plain : entry.Plain) {rest : Text} (same : entry.key = spaced mnemonic rest) :
    entry.mnemonic = mnemonic ∧ entry.operands ≠ [] ∧ Text.joined "," entry.operands = rest := by
  have some : entry.operands ≠ [] := by
    intro none
    have bare : entry.key = entry.mnemonic := by
      rw [plain.key, none]
      rfl
    apply plain.mnemonic
    rw [← bare, same, spaced]
    simp
  obtain ⟨key, blankless⟩ := plain.key_of_operands some
  rw [key, spaced, spaced] at same
  obtain ⟨mnemonics, -, operands⟩ :=
    (List.append_cons_inj_of_notMem plain.mnemonic blankless).1 same
  exact ⟨mnemonics, some, operands⟩

/-- A key with two operands is that of an entry with these operands. -/
theorem operands_of_pair (plain : entry.Plain) {first second : Text}
    (same : entry.key = spaced mnemonic (first ++ ',' :: second)) :
    entry.mnemonic = mnemonic ∧ entry.operands = [first, second] := by
  obtain ⟨mnemonics, some, operands⟩ := plain.of_key same
  refine ⟨mnemonics, ?_⟩
  obtain ⟨-, -, few, tokens⟩ := plain
  match listed : entry.operands with
  | [] => exact absurd listed some
  | [token] =>
    rw [listed, joined_singleton] at operands
    refine absurd ?_ (tokens token (by simp [listed])).2.2
    rw [operands]
    simp
  | [token, other] =>
    rw [listed, joined_pair] at operands
    obtain ⟨firsts, -, seconds⟩ :=
      (List.append_cons_inj_of_notMem (tokens token (by simp [listed])).2.2
        (tokens other (by simp [listed])).2.2).1 operands
    rw [firsts, seconds]
  | _ :: _ :: _ :: _ =>
    rw [listed] at few
    simp at few

/-- A key with one operand is that of an entry with this operand, or the operand is two of the
table written as one. -/
theorem operands_of_single (plain : entry.Plain) {form : Text}
    (same : entry.key = spaced mnemonic form) :
    entry.mnemonic = mnemonic ∧ (entry.operands = [form] ∨
      ∃ first second, entry.operands = [first, second] ∧ first ≠ [] ∧
        form = first ++ ',' :: second) := by
  obtain ⟨mnemonics, some, operands⟩ := plain.of_key same
  refine ⟨mnemonics, ?_⟩
  obtain ⟨-, -, few, tokens⟩ := plain
  match listed : entry.operands with
  | [] => exact absurd listed some
  | [token] =>
    rw [listed, joined_singleton] at operands
    exact .inl (by rw [operands])
  | [first, second] =>
    rw [listed, joined_pair] at operands
    exact .inr ⟨first, second, rfl, (tokens first (by simp [listed])).1, operands.symm⟩
  | _ :: _ :: _ :: _ =>
    rw [listed] at few
    simp at few

theorem operands_of_commaless (plain : entry.Plain) {form : Text}
    (same : entry.key = spaced mnemonic form) (commaless : ',' ∉ form) :
    entry.mnemonic = mnemonic ∧ entry.operands = [form] := by
  obtain ⟨mnemonics, operands | ⟨first, second, -, -, rfl⟩⟩ := plain.operands_of_single same
  · exact ⟨mnemonics, operands⟩
  · simp at commaless

end Entry.Plain

/-! ## What the table lists -/

/-- The table of the processor lists these operands for the mnemonic. -/
def Lists (mnemonic : Text) (tokens : List Text) : Prop :=
  ∃ entry ∈ Table.standard.entries, entry.mnemonic = mnemonic ∧ entry.operands = tokens

instance (mnemonic : Text) (tokens : List Text) : Decidable (Lists mnemonic tokens) :=
  inferInstanceAs (Decidable (∃ entry ∈ Table.standard.entries, _))

namespace Table

theorem plain_of_standard {entry : Entry} (member : entry ∈ standard.entries) : entry.Plain := by
  have each : ∀ entry ∈ standard.entries, entry.Plain := by decide +kernel
  exact each entry member

/-- What stands under a key is an entry of the table. -/
theorem mem_of_under? {mnemonic key : Text} {entry : Entry}
    (found : standard.under? mnemonic key = some entry) : entry ∈ standard.entries := by
  have held : entry ∈ standard.held := by
    rw [under?] at found
    split at found
    · exact mem_held_of_getExtended? found
    · exact mem_held_of_get? found
  have among : ∀ entry ∈ standard.spellings.map Prod.snd, entry ∈ standard.entries := by
    decide +kernel
  rcases List.mem_append.1 held with listed | spelled
  · exact listed
  · exact among entry spelled

theorem isSome_findIn {listed : List Listed} {entry : Entry}
    (member : entry ∈ listed.map Listed.entry) : (findIn listed entry.key).isSome = true := by
  obtain ⟨item, there, rfl⟩ := List.mem_map.1 member
  rw [findIn, Option.isSome_map, List.find?_isSome]
  exact ⟨item, there, beq_iff_eq.2 item.key_eq⟩

/-- Every entry stands under its key. -/
theorem isSome_under? {entry : Entry} (member : entry ∈ standard.entries) :
    (standard.under? entry.mnemonic entry.key).isSome = true := by
  have apart : (∀ entry ∈ standard.unprefixed.map Listed.entry,
        extendedMnemonics.contains entry.mnemonic = false) ∧
      ∀ entry ∈ standard.extended.map Listed.entry,
        extendedMnemonics.contains entry.mnemonic = true := by
    decide +kernel
  rw [entries, List.map_append] at member
  rw [under?]
  rcases List.mem_append.1 member with unprefixed | extended
  · rw [apart.1 entry unprefixed, if_neg Bool.false_ne_true, get?, Option.isSome_or,
      isSome_findIn unprefixed, Bool.true_or]
  · rw [apart.2 entry extended, if_pos rfl, getExtended?, isSome_findIn extended]

end Table

namespace Lists

variable {mnemonic : Text}

/-- What the table lists is found under its key. -/
theorem found {tokens : List Text} (listed : Lists mnemonic tokens) (some : tokens ≠ []) :
    (Table.standard.under? mnemonic (spaced mnemonic (Text.joined "," tokens))).isSome = true := by
  obtain ⟨entry, member, rfl, rfl⟩ := listed
  rw [← ((Table.plain_of_standard member).key_of_operands some).1]
  exact Table.isSome_under? member

theorem found_single {token : Text} (listed : Lists mnemonic [token]) :
    (Table.standard.under? mnemonic (spaced mnemonic token)).isSome = true := by
  have found := listed.found (List.cons_ne_nil _ _)
  rwa [joined_singleton] at found

theorem found_pair {first second : Text} (listed : Lists mnemonic [first, second]) :
    (Table.standard.under? mnemonic (spaced mnemonic (first ++ ',' :: second))).isSome = true := by
  have found := listed.found (List.cons_ne_nil _ _)
  rwa [joined_pair] at found

end Lists

end Sm83Cost.Opcode
