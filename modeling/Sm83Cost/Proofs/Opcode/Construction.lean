import Sm83Cost.Opcode.Table
import Sm83Cost.Proofs.Store.Related
import Sm83Cost.Proofs.Traversal

/-!
# Making a table

A table is made from two lists of entries and from other spellings for some of the unprefixed
ones.  Keys are worked out from spellings of operands, so rows that are written differently may
come to the same key.

Such rows are refused first, the unprefixed ones before the extended ones.  Then the other
spellings are looked at in order: the first that is the key of an unprefixed entry, or whose
opcode no unprefixed entry has, decides the error (`make_reflects_or_refuses`).  A table that is
made holds each entry once, in the order given, and each spelling stands for the *last* entry
with its opcode, which matters only where several entries share one.
-/

namespace Sm83Cost.Opcode.Table

set_option autoImplicit false

/-! ## What is refused, and what a table holds -/

/-- The key is the first in the list that has come before. -/
def Repeats (keys : List Text) (key : Text) : Prop :=
  ∃ before after, keys = before ++ key :: after ∧ before.Nodup ∧ key ∈ before

/-- Of the entries with the opcode, this is the last. -/
def LastWith (entries : List Entry) (opcode : Int) (entry : Entry) : Prop :=
  entry.opcode = opcode ∧
    ∃ before after, entries = before ++ entry :: after ∧ ∀ later ∈ after, later.opcode ≠ opcode

/-- Beside these unprefixed entries, a spelling for an opcode is refused with this error. -/
inductive Refuses (entries : List Entry) : Text × Int → TableError → Prop where
  | hides {key : Text} {opcode : Int} (listed : key ∈ entries.map Entry.key) :
      Refuses entries (key, opcode) (.hides key)
  | unknownOpcode {key : Text} {opcode : Int} (free : key ∉ entries.map Entry.key)
      (missing : ∀ entry ∈ entries, entry.opcode ≠ opcode) :
      Refuses entries (key, opcode) (.unknownOpcode opcode)

/-- The table holds the given entries in order, and the spellings stand for some of them. -/
structure Reflects (unprefixed extended : List Entry) (spellings : Store Int) (table : Table) :
    Prop where
  get? : ∀ key entry, table.get? key = some entry ↔
    entry ∈ unprefixed ∧ entry.key = key ∨
      ∃ opcode, spellings.get? key = some opcode ∧ LastWith unprefixed opcode entry
  getExtended? : ∀ key entry, table.getExtended? key = some entry ↔
    entry ∈ extended ∧ entry.key = key
  entries : table.entries = unprefixed ++ extended
  size : table.size = unprefixed.length + extended.length + spellings.pairs.length

/-! ## Keys that repeat -/

theorem firstRepeated?_eq_none {seen keys : List Text} :
    firstRepeated? seen keys = none ↔ keys.Nodup ∧ ∀ key ∈ keys, key ∉ seen := by
  induction keys generalizing seen with
  | nil => simp [firstRepeated?]
  | cons key rest ih =>
    rw [firstRepeated?]
    by_cases known : key ∈ seen
    · simp [known]
    · simp only [List.contains_iff_mem, known, if_false, ih, List.nodup_cons, List.mem_cons,
        forall_eq_or_imp, not_or]
      constructor
      · rintro ⟨distinct, apart⟩
        refine ⟨⟨fun again => (apart key again).1 rfl, distinct⟩, not_false, ?_⟩
        exact fun other member => (apart other member).2
      · rintro ⟨⟨once, distinct⟩, -, apart⟩
        refine ⟨distinct, fun other member => ⟨?_, apart other member⟩⟩
        rintro rfl
        exact once member

/-- What comes before the first key that repeats is distinct, and apart from what was seen. -/
theorem exists_of_firstRepeated? {seen keys : List Text} {key : Text}
    (found : firstRepeated? seen keys = some key) :
    ∃ before after, keys = before ++ key :: after ∧ before.Nodup ∧
      (∀ other ∈ before, other ∉ seen) ∧ (key ∈ seen ∨ key ∈ before) := by
  induction keys generalizing seen with
  | nil => cases found
  | cons first rest ih =>
    rw [firstRepeated?] at found
    split at found
    · rename_i known
      cases found
      exact ⟨[], rest, rfl, List.nodup_nil, by simp, .inl (List.contains_iff_mem.1 known)⟩
    · rename_i fresh
      obtain ⟨before, after, rfl, distinct, apart, again⟩ := ih found
      refine ⟨first :: before, after, rfl, ?_, ?_, ?_⟩
      · exact List.nodup_cons.2 ⟨fun member => apart first member List.mem_cons_self, distinct⟩
      · intro other member
        rcases List.mem_cons.1 member with rfl | later
        · exact fun known => fresh (List.contains_iff_mem.2 known)
        · exact fun known => apart other later (List.mem_cons_of_mem _ known)
      · rcases again with known | later
        · rcases List.mem_cons.1 known with rfl | earlier
          · exact .inr List.mem_cons_self
          · exact .inl earlier
        · exact .inr (List.mem_cons_of_mem _ later)

theorem map_key_list (entries : List Entry) :
    (list entries).map Listed.key = entries.map Entry.key := by
  rw [list, List.map_map]
  rfl

theorem map_entry_list (entries : List Entry) : (list entries).map Listed.entry = entries := by
  rw [list, List.map_map]
  exact List.map_id entries

/-- Entries whose keys are distinct are listed as they are. -/
theorem distinct_of_nodup {entries : List Entry} (distinct : (entries.map Entry.key).Nodup) :
    Table.distinct entries = .ok (list entries) := by
  have none : firstRepeated? [] ((list entries).map Listed.key) = none := by
    rw [map_key_list, firstRepeated?_eq_none]
    exact ⟨distinct, by simp⟩
  rw [Table.distinct, none]

/-- Entries whose keys are not distinct are refused for the first key that repeats. -/
theorem distinct_of_not_nodup {entries : List Entry} (repeats : ¬ (entries.map Entry.key).Nodup) :
    ∃ key, Repeats (entries.map Entry.key) key ∧
      Table.distinct entries = .error (.duplicate key) := by
  cases found : firstRepeated? [] ((list entries).map Listed.key) with
  | none =>
    rw [map_key_list, firstRepeated?_eq_none] at found
    exact absurd found.1 repeats
  | some key =>
    refine ⟨key, ?_, by rw [Table.distinct, found]⟩
    rw [map_key_list] at found
    obtain ⟨before, after, split, distinct, -, again⟩ := exists_of_firstRepeated? found
    exact ⟨before, after, split, distinct, again.resolve_left List.not_mem_nil⟩

/-! ## Looking entries up -/

/-- Among entries with distinct keys, what is found under a key is the entry that has it. -/
theorem findIn_list {entries : List Entry} (distinct : (entries.map Entry.key).Nodup) {key : Text}
    {entry : Entry} :
    findIn (list entries) key = some entry ↔ entry ∈ entries ∧ entry.key = key := by
  induction entries with
  | nil => simp [findIn, list]
  | cons first rest ih =>
    obtain ⟨once, others⟩ := List.nodup_cons.1 distinct
    by_cases here : first.key = key
    · have found : findIn (list (first :: rest)) key = some first := by
        simp [findIn, list, here]
      rw [found, Option.some.injEq]
      constructor
      · rintro rfl
        exact ⟨List.mem_cons_self, here⟩
      · rintro ⟨member, same⟩
        rcases List.mem_cons.1 member with rfl | later
        · rfl
        · exact absurd (List.mem_map.2 ⟨entry, later, same.trans here.symm⟩) once
    · have later : findIn (list (first :: rest)) key = findIn (list rest) key := by
        simp [findIn, list, here]
      rw [later, ih others, List.mem_cons]
      constructor
      · rintro ⟨member, same⟩
        exact ⟨.inr member, same⟩
      · rintro ⟨rfl | member, same⟩
        · exact absurd same here
        · exact ⟨member, same⟩

/-! ## Other spellings -/

/-- Looking from the end finds the last entry with an opcode. -/
theorem lastWith_of_find? {entries : List Entry} {opcode : Int} {listed : Listed}
    (found : (list entries).reverse.find? (·.entry.opcode == opcode) = some listed) :
    LastWith entries opcode listed.entry := by
  obtain ⟨same, before, after, split, apart⟩ := List.find?_eq_some_iff_append.1 found
  refine ⟨eq_of_beq same, after.reverse.map Listed.entry, before.reverse.map Listed.entry, ?_, ?_⟩
  · have turned := congrArg (fun items => (items.reverse).map Listed.entry) split
    simpa [map_entry_list] using turned
  · intro later member
    obtain ⟨item, there, rfl⟩ := List.mem_map.1 member
    simpa using apart item (List.mem_reverse.1 there)

theorem LastWith.unique {entries : List Entry} {opcode : Int} {first second : Entry}
    (one : LastWith entries opcode first) (other : LastWith entries opcode second) :
    first = second := by
  obtain ⟨has, before, after, rfl, none⟩ := one
  obtain ⟨has', before', after', split, none'⟩ := other
  rcases List.append_eq_append_iff.1 split with ⟨more, -, rest⟩ | ⟨more, -, rest⟩
  · cases more with
    | nil => exact (List.cons.inj rest).1
    | cons next more =>
      obtain ⟨-, rfl⟩ := List.cons.inj rest
      exact absurd has' (none second (by simp))
  · cases more with
    | nil => exact ((List.cons.inj rest).1).symm
    | cons next more =>
      obtain ⟨-, rfl⟩ := List.cons.inj rest
      exact absurd has (none' first (by simp))

/-- A spelling stands for the last entry with its opcode, or it is refused. -/
theorem spelled_cases (entries : List Entry) (spelling : Text × Int) :
    (∃ entry, spelled (list entries) spelling = .ok (spelling.1, entry) ∧
        spelling.1 ∉ entries.map Entry.key ∧ LastWith entries spelling.2 entry) ∨
      ∃ error, spelled (list entries) spelling = .error error ∧ Refuses entries spelling error := by
  obtain ⟨key, opcode⟩ := spelling
  rw [spelled, map_key_list]
  by_cases hidden : key ∈ entries.map Entry.key
  · rw [if_pos (List.contains_iff_mem.2 hidden)]
    exact .inr ⟨_, rfl, .hides hidden⟩
  · rw [if_neg (by simpa using hidden)]
    cases found : (list entries).reverse.find? (·.entry.opcode == opcode) with
    | some listed => exact .inl ⟨listed.entry, rfl, hidden, lastWith_of_find? found⟩
    | none =>
      refine .inr ⟨_, rfl, .unknownOpcode hidden fun entry member => ?_⟩
      rw [List.find?_eq_none] at found
      have there : ({ entry } : Listed) ∈ (list entries).reverse :=
        List.mem_reverse.2 (List.mem_map_of_mem member)
      simpa using found _ there

theorem spelled_eq_error {entries : List Entry} {spelling : Text × Int} {error : TableError}
    (refused : Refuses entries spelling error) :
    spelled (list entries) spelling = .error error := by
  cases refused with
  | hides listed =>
    rw [spelled, map_key_list, if_pos (List.contains_iff_mem.2 listed)]
  | unknownOpcode free missing =>
    rcases spelled_cases entries (_, _) with ⟨entry, -, -, has, before, after, rfl, -⟩ |
      ⟨error, failed, refused⟩
    · exact absurd has (missing entry (by simp))
    · cases refused with
      | hides listed => exact absurd listed free
      | unknownOpcode => exact failed

/-! ## Tables -/

section Tables

variable {unprefixed extended : List Entry} (spellings : Store Int)

/-- A table of entries with distinct keys is decided by the other spellings. -/
theorem make_of_nodup (first : (unprefixed.map Entry.key).Nodup)
    (second : (extended.map Entry.key).Nodup) :
    make unprefixed extended spellings =
      (spellings.pairs.mapM (spelled (list unprefixed))).map
        fun spelled => ⟨list unprefixed, list extended, spelled⟩ := by
  rw [make, distinct_of_nodup first, distinct_of_nodup second]
  show (spellings.pairs.mapM (spelled (list unprefixed)) >>= fun _ => _) = _
  cases spellings.pairs.mapM (spelled (list unprefixed)) <;> rfl

/-- A table that is made holds what it was made of. -/
theorem reflects_of_forall₂ {listed : List (Text × Entry)}
    (first : (unprefixed.map Entry.key).Nodup) (second : (extended.map Entry.key).Nodup)
    (each : List.Forall₂
      (fun spelling found => spelled (list unprefixed) spelling = .ok found)
      spellings.pairs listed) :
    Reflects unprefixed extended spellings ⟨list unprefixed, list extended, listed⟩ where
  get? := by
    intro key entry
    have related : Store.Related (LastWith unprefixed) spellings ⟨listed⟩ ∧
        ∀ pair ∈ listed, pair.1 ∉ unprefixed.map Entry.key := by
      obtain ⟨pairs⟩ := spellings
      simp only [Store.Related] at each ⊢
      induction each with
      | nil => exact ⟨.nil, by simp⟩
      | @cons spelling found _ _ here _ ih =>
        rcases spelled_cases unprefixed spelling with ⟨entry, there, free, last⟩ | ⟨_, failed, -⟩
        · rw [there] at here
          cases here
          refine ⟨.cons ⟨rfl, last⟩ ih.1, ?_⟩
          intro pair member
          rcases List.mem_cons.1 member with rfl | later
          · exact free
          · exact ih.2 pair later
        · rw [failed] at here
          cases here
    obtain ⟨related, apart⟩ := related
    show (findIn (list unprefixed) key).or (listed.lookup key) = some entry ↔ _
    rw [Option.or_eq_some_iff, findIn_list first]
    apply or_congr Iff.rfl
    have both := related.get? key
    change Option.Rel _ (spellings.get? key) (listed.lookup key) at both
    constructor
    · rintro ⟨-, found⟩
      rw [found] at both
      generalize given : spellings.get? key = opcode? at both
      cases both with
      | some last => exact ⟨_, rfl, last⟩
    · rintro ⟨opcode, given, last⟩
      rw [given] at both
      generalize found : listed.lookup key = entry? at both
      cases both with
      | @some _ other last' =>
        refine ⟨?_, congrArg some (last'.unique last)⟩
        -- A key under which a spelling stands is no key of an entry.
        obtain ⟨before, after, split, -⟩ := List.lookup_eq_some_iff.1 found
        have free := apart (key, other) (by rw [split]; simp)
        cases hidden : findIn (list unprefixed) key with
        | none => rfl
        | some entry =>
          obtain ⟨member, rfl⟩ := (findIn_list first).1 hidden
          exact absurd (List.mem_map_of_mem member) free
  getExtended? := fun _ _ => findIn_list second
  entries := by
    show (list unprefixed ++ list extended).map Listed.entry = _
    rw [List.map_append, map_entry_list, map_entry_list]
  size := by
    show (list unprefixed).length + listed.length + (list extended).length = _
    rw [← each.length_eq, list, list, List.length_map, List.length_map]
    omega

end Tables

/-- **A table holds exactly what it is made of, or its making is refused.**  It is refused if two
unprefixed entries share a key, or else two extended ones, for the first key that repeats.  If
neither is so, the first other spelling that is the key of an unprefixed entry, or whose opcode no
unprefixed entry has, decides the error.  If there is none either, a table is made: under a key it
has the unprefixed entry with that key, or the last one with the opcode that the key is another
spelling for, or nothing; under an extended key it has the extended entry; its entries are those
given, each once and in order; and its size counts them and the other spellings. -/
theorem make_reflects_or_refuses (unprefixed extended : List Entry) (spellings : Store Int) :
    (¬ (unprefixed.map Entry.key).Nodup →
      ∃ key, Repeats (unprefixed.map Entry.key) key ∧
        make unprefixed extended spellings = .error (.duplicate key)) ∧
    ((unprefixed.map Entry.key).Nodup → ¬ (extended.map Entry.key).Nodup →
      ∃ key, Repeats (extended.map Entry.key) key ∧
        make unprefixed extended spellings = .error (.duplicate key)) ∧
    ((unprefixed.map Entry.key).Nodup → (extended.map Entry.key).Nodup →
      (∀ before spelling after error, spellings.pairs = before ++ spelling :: after →
        (∀ earlier ∈ before, ∀ error, ¬ Refuses unprefixed earlier error) →
        Refuses unprefixed spelling error →
        make unprefixed extended spellings = .error error) ∧
      ((∀ spelling ∈ spellings.pairs, ∀ error, ¬ Refuses unprefixed spelling error) →
        ∃ table, make unprefixed extended spellings = .ok table ∧
          Reflects unprefixed extended spellings table)) := by
  have accepted : ∀ spelling, (∀ error, ¬ Refuses unprefixed spelling error) →
      ∃ found, spelled (list unprefixed) spelling = .ok found := by
    intro spelling fine
    rcases spelled_cases unprefixed spelling with ⟨entry, found, -⟩ | ⟨error, -, refused⟩
    · exact ⟨_, found⟩
    · exact absurd refused (fine error)
  refine ⟨?_, ?_, fun first second => ⟨?_, ?_⟩⟩
  · intro repeats
    obtain ⟨key, again, failed⟩ := distinct_of_not_nodup repeats
    refine ⟨key, again, ?_⟩
    rw [make, failed]
    rfl
  · intro first repeats
    obtain ⟨key, again, failed⟩ := distinct_of_not_nodup repeats
    refine ⟨key, again, ?_⟩
    rw [make, distinct_of_nodup first, failed]
    rfl
  · intro before spelling after error split earlier refused
    have stops : spellings.pairs.mapM (spelled (list unprefixed)) = .error error := by
      rw [Traversal.mapM_eq_error]
      exact ⟨before, spelling, after, split,
        fun other member => accepted other (earlier other member), spelled_eq_error refused⟩
    rw [make_of_nodup spellings first second, stops]
    rfl
  · intro fine
    rw [make_of_nodup spellings first second]
    cases made : spellings.pairs.mapM (spelled (list unprefixed)) with
    | error error =>
      obtain ⟨before, spelling, after, split, -, failed⟩ := Traversal.mapM_eq_error.1 made
      obtain ⟨found, succeeds⟩ := accepted spelling (fine spelling (by rw [split]; simp))
      rw [failed] at succeeds
      cases succeeds
    | ok listed =>
      exact ⟨_, rfl, reflects_of_forall₂ spellings first second (Traversal.mapM_eq_ok.1 made)⟩

/-- The same row, written in two ways, is refused.  Beside one of them and another row with its
opcode, a spelling stands for the last of the two, and of several spellings that cannot stand the
first decides the error. -/
theorem make_reflects_or_refuses_written_twice :
    let row (mnemonic : Text) (operands : List Text) : Entry :=
      { opcode := 0x22, mnemonic, size := 1, cycles := .fixed 8, flags := untouched, operands }
    let loose := row "ld" ["(hli)", "a"]
    let strict := row "LD" ["[ HL+ ]", "A"]
    let other := row "LDI" ["[hl]", "a"]
    (∃ key, make [loose, strict] [] {} = .error (.duplicate key)) ∧
    (∃ table, make [loose, other] [loose] ⟨[("STI", 0x22)]⟩ = .ok table ∧
      table.get? "STI" = some other ∧ table.getExtended? "LD [HL+],A" = some loose ∧
      table.entries = [loose, other, loose] ∧ table.size = 4) ∧
    make [loose] [] ⟨[("STI", 0x22), ("STD", 0x32), ("LD [HL+],A", 0x22)]⟩ =
      .error (.unknownOpcode 0x32) := by
  intro row loose strict other
  have one : ([loose].map Entry.key).Nodup := by simp
  have two : ([loose, other].map Entry.key).Nodup := by decide +kernel
  refine ⟨?_, ?_, ?_⟩
  · obtain ⟨key, -, failed⟩ :=
      (make_reflects_or_refuses [loose, strict] [] {}).1 (by decide +kernel)
    exact ⟨key, failed⟩
  · have fine : ∀ spelling ∈ (⟨[("STI", 0x22)]⟩ : Store Int).pairs, ∀ error,
        ¬ Refuses [loose, other] spelling error := by
      intro spelling member error refused
      cases List.mem_singleton.1 member
      cases refused with
      | hides listed => exact absurd listed (by decide +kernel)
      | unknownOpcode free missing => exact missing loose (by simp) rfl
    obtain ⟨table, made, reflects⟩ :=
      ((make_reflects_or_refuses [loose, other] [loose] ⟨[("STI", 0x22)]⟩).2.2 two one).2 fine
    refine ⟨table, made, ?_, ?_, reflects.entries, reflects.size⟩
    · exact (reflects.get? _ _).2 (.inr ⟨0x22, rfl, rfl, [loose], [], rfl, by simp⟩)
    · exact (reflects.getExtended? _ _).2 ⟨by simp, by decide +kernel⟩
  · refine ((make_reflects_or_refuses [loose] [] _).2.2 one (by simp)).1 [("STI", 0x22)]
      ("STD", 0x32) [("LD [HL+],A", 0x22)] (.unknownOpcode 0x32) rfl ?_ ?_
    · intro earlier member error refused
      cases List.mem_singleton.1 member
      cases refused with
      | hides listed => exact absurd listed (by decide +kernel)
      | unknownOpcode free missing => exact missing loose (by simp) rfl
    · refine .unknownOpcode (by decide +kernel) ?_
      intro entry member
      cases List.mem_singleton.1 member
      decide

end Sm83Cost.Opcode.Table
