import Sm83Cost.Opcode.Lookup

/-!
# Cycles that fall

A branch that is not taken is no slower than one that is.  Cycles fall when they
list one number, or two of which the second is not greater than the first.  Then
the most, the fewest and those of a branch that is not taken are all known, and
the last two are the same (`Cycles.exists_of_falls`).

Whatever is found in a table is one of the entries it holds
(`Table.mem_held_of_lookup`), and in the table of the processor the cycles of all
of them fall (`Table.falls_of_standard`).
-/

namespace Sm83Cost

set_option autoImplicit false

namespace Cycles

/-- One number, or two of which the second is not greater than the first. -/
def falls (cycles : Cycles) : Bool :=
  match cycles.numbers with
  | [_] => true
  | [taken, untaken] => decide (untaken ≤ taken)
  | _ => false

/-- Of cycles that fall every number is known, and a branch that is not taken takes the fewest. -/
theorem exists_of_falls {cycles : Cycles} (falls : cycles.falls = true) :
    ∃ most fewest, fewest ≤ most ∧ cycles.most? = some most ∧ cycles.fewest? = some fewest ∧
      cycles.untaken? = some fewest := by
  obtain ⟨numbers⟩ := cycles
  match numbers, falls with
  | [number], _ => exact ⟨number, number, Int.le_refl number, rfl, rfl, rfl⟩
  | [taken, untaken], falls => exact ⟨taken, untaken, of_decide_eq_true falls, rfl, rfl, rfl⟩

theorem falls_ofTotals {most fewest : Int} (order : fewest ≤ most) :
    (ofTotals most fewest).falls = true := by
  rw [ofTotals]
  split
  · rfl
  · exact decide_eq_true order

end Cycles

namespace Opcode.Table

/-- Every entry of the table, those that other spellings stand for included. -/
def held (table : Table) : List Entry :=
  table.entries ++ table.spellings.map Prod.snd

theorem mem_of_findIn {listed : List Listed} {key : Text} {entry : Entry}
    (found : findIn listed key = some entry) : entry ∈ listed.map Listed.entry := by
  obtain ⟨item, there, rfl⟩ := Option.map_eq_some_iff.1 found
  exact List.mem_map_of_mem (List.mem_of_find?_eq_some there)

theorem mem_held_of_get? {table : Table} {key : Text} {entry : Entry}
    (found : table.get? key = some entry) : entry ∈ table.held := by
  rw [held, entries, List.map_append]
  rcases Option.or_eq_some_iff.1 found with listed | ⟨-, spelled⟩
  · exact List.mem_append_left _ (List.mem_append_left _ (mem_of_findIn listed))
  · exact List.mem_append_right _ (Store.mem_of_lookup spelled)

theorem mem_held_of_getExtended? {table : Table} {key : Text} {entry : Entry}
    (found : table.getExtended? key = some entry) : entry ∈ table.held := by
  rw [held, entries, List.map_append]
  exact List.mem_append_left _ (List.mem_append_right _ (mem_of_findIn found))

theorem mem_held_of_find? {table : Table} {mnemonic : Text} {operands forms : List Text}
    {entry : Entry} (found : table.find? mnemonic operands forms = some entry) :
    entry ∈ table.held := by
  rw [find?] at found
  split at found
  · obtain ⟨key, -, there⟩ := List.exists_of_findSome?_eq_some found
    exact mem_held_of_getExtended? there
  · split at found
    · exact mem_held_of_get? found
    · obtain ⟨key, -, there⟩ := List.exists_of_findSome?_eq_some found
      exact mem_held_of_get? there

/-- What is found for an instruction is an entry of the table. -/
theorem mem_held_of_lookup {table : Table} {mnemonic : Text} {operands : List Text}
    {entry : Entry} (found : table.lookup mnemonic operands = .ok (some entry)) :
    entry ∈ table.held := by
  rw [lookup] at found
  cases forms : operands.mapM Operand.form with
  | error cause =>
    rw [forms] at found
    cases found
  | ok forms' =>
    rw [forms] at found
    exact mem_held_of_find? (Except.ok.inj found)

/-- In the table of the processor a branch that is not taken is no slower than one that is. -/
theorem falls_of_standard {entry : Entry} (member : entry ∈ standard.held) :
    entry.cycles.falls = true := by
  have each : standard.held.all (fun entry => entry.cycles.falls) = true := by decide +kernel
  exact List.all_eq_true.1 each entry member

/-- What the table of the processor gives for an instruction has cycles that fall. -/
theorem falls_of_lookup {mnemonic : Text} {operands : List Text} {entry : Entry}
    (found : standard.lookup mnemonic operands = .ok (some entry)) : entry.cycles.falls = true :=
  falls_of_standard (mem_held_of_lookup found)

end Opcode.Table

end Sm83Cost
