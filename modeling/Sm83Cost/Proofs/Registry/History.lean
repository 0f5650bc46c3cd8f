import Mathlib.Data.List.Induction
import Mathlib.Order.Lattice.Nat
import Sm83Cost.Routine.Basic

/-!
# The history of a registry

A registry is changed again and again: definitions are registered, and now and then all of them
are taken away.  What it holds afterwards can be told from these changes alone.  For each name
only those places in the history count where a definition of that name was registered and after
which the registry was not cleared any more (`places`).  The last of them says which definition is
found under the name (`Latest`), and the first of them says where it is listed (`FirstBefore`).

That the registry shows just this is stated for every history by `ofChanges_reports_latest`.  A
definition takes the place of the earlier one with its name, also in the list, unless the registry
was cleared in between: then the earlier one does not count for the order either.

Names that have the same capitals are one name everywhere.  The invariant that is carried through
the changes therefore speaks of keys only (`Remembers`); names come in at the very end.
-/

namespace Sm83Cost

set_option autoImplicit false

/-! ## Stores with distinct keys -/

namespace Store

variable {α : Type} {store : Store α} {key : Text} {value : α}

theorem get?_eq_none_iff : store.get? key = none ↔ key ∉ store.keys := by
  simp only [get?, keys, List.lookup_eq_none_iff, List.mem_map, not_exists, not_and, bne_iff_ne]
  exact forall₂_congr fun pair _ => ne_comm

/-- Each value is found under its key, if no key occurs twice. -/
theorem get?_of_mem (distinct : store.keys.Nodup) (member : (key, value) ∈ store.pairs) :
    store.get? key = some value := by
  obtain ⟨before, after, split⟩ := List.append_of_mem member
  rw [get?, List.lookup_eq_some_iff]
  refine ⟨before, after, split, ?_⟩
  intro earlier listed
  rw [keys, split, List.map_append, List.nodup_append] at distinct
  have differs : earlier.1 ≠ key :=
    distinct.2.2 _ (List.mem_map_of_mem listed) key (List.mem_cons_self ..)
  simpa using differs.symm

end Store

namespace Registry

/-! ## Changes -/

/-- What happens to a registry. -/
inductive Change (α : Type) where
  | register (definition : α)
  /-- Takes all definitions away. -/
  | clear

/-- A change of a history that has one more is one of before, or it is the last one. -/
theorem changeAt_concat {α : Type} {changes : List (Change α)} {place : Nat}
    {last other : Change α} :
    (changes ++ [last])[place]? = some other ↔
      changes[place]? = some other ∨ place = changes.length ∧ last = other := by
  grind

variable {α : Type} [Named α] {registry : Registry α} {definition : α}

/-! ## Keys -/

/-- The key of a definition is its name in capitals. -/
def keyOf (definition : α) : Text :=
  Text.upper (Named.name definition)

theorem register_eq_put (registry : Registry α) (definition : α) :
    registry.register definition = registry.put (keyOf definition) definition := rfl

/-- Every definition is held under its own name in capitals. -/
def Keyed (registry : Registry α) : Prop :=
  ∀ pair ∈ registry.pairs, pair.1 = Text.upper (Named.name pair.2)

theorem keyed_empty : Keyed (.empty : Registry α) :=
  List.forall_mem_nil _

theorem Keyed.register (keyed : Keyed registry) (definition : α) :
    Keyed (registry.register definition) := by
  intro pair member
  rcases Store.eq_or_mem_of_mem_putIn member with rfl | known
  · rfl
  · exact keyed pair known

/-- What is found is found under its own name only. -/
theorem Keyed.eq_of_get? (keyed : Keyed registry) {key : Text}
    (found : registry.get? key = some definition) : key = Text.upper (Named.name definition) := by
  obtain ⟨before, after, split, -⟩ := List.lookup_eq_some_iff.1 found
  apply keyed (key, definition)
  rw [split]
  exact List.mem_append_right before List.mem_cons_self

/-! ## Histories -/

/-- The registry after one more change. -/
def change (registry : Registry α) : Change α → Registry α
  | .register definition => registry.register definition
  | .clear => .empty

/-- The registry that changes leave behind, one after the other, if it is empty at first. -/
def ofChanges (changes : List (Change α)) : Registry α :=
  changes.foldl change .empty

theorem ofChanges_concat (changes : List (Change α)) (last : Change α) :
    ofChanges (changes ++ [last]) = (ofChanges changes).change last := by
  rw [ofChanges, List.foldl_append]
  rfl

/-! ## What counts in a history -/

/-- In this place a definition with the key is registered, and nothing is cleared afterwards. -/
structure RegisteredAt (changes : List (Change α)) (key : Text) (place : Nat) (definition : α) :
    Prop where
  registered : changes[place]? = some (.register definition)
  keyOf_eq : keyOf definition = key
  uncleared : ∀ later, place < later → changes[later]? ≠ some .clear

/-- Where definitions with the key were registered since the registry was cleared last. -/
def places (changes : List (Change α)) (key : Text) : Set Nat :=
  {place | ∃ definition, RegisteredAt changes key place definition}

/-- Of the definitions with the key this was registered last. -/
def Latest (changes : List (Change α)) (key : Text) (definition : α) : Prop :=
  ∃ place, IsGreatest (places changes key) place ∧
    changes[place]? = some (.register definition)

/-- A definition with the one key was registered before there was any with the other. -/
def FirstBefore (changes : List (Change α)) (key other : Text) : Prop :=
  ∃ place later, IsLeast (places changes key) place ∧ IsLeast (places changes other) later ∧
    place < later

/-- The registry shows what its history says: the latest definition under each name, and in the
list exactly the latest definitions, one for each key, in the order in which the keys came up. -/
structure Reports (changes : List (Change α)) (registry : Registry α) : Prop where
  find?_eq_some_iff : ∀ name definition,
    registry.find? name = some definition ↔ Latest changes (Text.upper name) definition
  find?_eq_none_iff : ∀ name,
    registry.find? name = none ↔ places changes (Text.upper name) = ∅
  defines_iff : ∀ name,
    registry.defines name = true ↔ ∃ definition, registry.find? name = some definition
  mem_values_iff : ∀ definition,
    definition ∈ registry.values ↔ Latest changes (keyOf definition) definition
  distinct : (registry.values.map keyOf).Nodup
  ordered : registry.values.Pairwise fun definition other =>
    FirstBefore changes (keyOf definition) (keyOf other)

/-! ## One more change -/

variable {changes : List (Change α)} {key : Text} {place : Nat} {new : α}

theorem RegisteredAt.lt_length (here : RegisteredAt changes key place definition) :
    place < changes.length :=
  (List.getElem?_eq_some_iff.1 here.registered).1

theorem lt_length_of_mem_places (member : place ∈ places changes key) :
    place < changes.length := by
  obtain ⟨definition, here⟩ := member
  exact here.lt_length

/-- Once the registry is cleared, nothing counts. -/
theorem places_clear (changes : List (Change α)) (key : Text) :
    places (changes ++ [.clear]) key = ∅ := by
  rw [Set.eq_empty_iff_forall_notMem]
  rintro place ⟨definition, here⟩
  rcases changeAt_concat.1 here.registered with earlier | ⟨-, last⟩
  · have inside : place < changes.length := (List.getElem?_eq_some_iff.1 earlier).1
    exact here.uncleared changes.length inside List.getElem?_concat_length
  · cases last

/-- A registration leaves what counts before it, and counts itself for its own key. -/
theorem registeredAt_register :
    RegisteredAt (changes ++ [.register new]) key place definition ↔
      RegisteredAt changes key place definition ∨
        place = changes.length ∧ definition = new ∧ keyOf new = key := by
  constructor
  · rintro ⟨registered, same, uncleared⟩
    rcases changeAt_concat.1 registered with earlier | ⟨rfl, last⟩
    · refine .inl ⟨earlier, same, ?_⟩
      intro later behind cleared
      exact uncleared later behind (changeAt_concat.2 (.inl cleared))
    · cases last
      exact .inr ⟨rfl, rfl, same⟩
  · rintro (⟨registered, same, uncleared⟩ | ⟨rfl, rfl, same⟩)
    · refine ⟨changeAt_concat.2 (.inl registered), same, ?_⟩
      intro later behind cleared
      rcases changeAt_concat.1 cleared with earlier | ⟨-, last⟩
      · exact uncleared later behind earlier
      · cases last
    · refine ⟨List.getElem?_concat_length, same, ?_⟩
      intro later behind cleared
      obtain ⟨bound, -⟩ := List.getElem?_eq_some_iff.1 cleared
      rw [List.length_append, List.length_singleton] at bound
      omega

theorem places_register_self (changes : List (Change α)) (new : α) :
    places (changes ++ [.register new]) (keyOf new) =
      insert changes.length (places changes (keyOf new)) := by
  ext place
  simp [places, registeredAt_register, exists_or, or_comm]

theorem places_register_of_ne (differs : key ≠ keyOf new) :
    places (changes ++ [.register new]) key = places changes key := by
  ext place
  simp [places, registeredAt_register, differs.symm]

/-- What is registered now is the latest definition with its key. -/
theorem latest_register_self :
    Latest (changes ++ [.register new]) (keyOf new) definition ↔ definition = new := by
  have greatest : IsGreatest (places (changes ++ [.register new]) (keyOf new)) changes.length := by
    rw [places_register_self]
    refine ⟨Set.mem_insert .., ?_⟩
    rintro place (rfl | member)
    · exact Nat.le_refl _
    · exact (lt_length_of_mem_places member).le
  constructor
  · rintro ⟨place, last, registered⟩
    obtain rfl := last.unique greatest
    rw [List.getElem?_concat_length] at registered
    cases registered
    rfl
  · rintro rfl
    exact ⟨changes.length, greatest, List.getElem?_concat_length⟩

/-- It changes nothing for the other keys. -/
theorem latest_register_of_ne (differs : key ≠ keyOf new) :
    Latest (changes ++ [.register new]) key definition ↔ Latest changes key definition := by
  simp only [Latest, places_register_of_ne differs]
  refine exists_congr fun place => and_congr_right fun greatest => ?_
  rw [List.getElem?_append_left (lt_length_of_mem_places greatest.1)]

/-- Where a key came up first does not change with a registration. -/
theorem isLeast_register (least : IsLeast (places changes key) place) (new : α) :
    IsLeast (places (changes ++ [.register new]) key) place := by
  by_cases same : key = keyOf new
  · subst same
    rw [places_register_self, ← min_eq_right (lt_length_of_mem_places least.1).le]
    exact least.insert changes.length
  · rwa [places_register_of_ne same]

theorem isLeast_register_self (fresh : places changes (keyOf new) = ∅) :
    IsLeast (places (changes ++ [.register new]) (keyOf new)) changes.length := by
  rw [places_register_self, fresh, insert_empty_eq]
  exact isLeast_singleton

theorem FirstBefore.register {other : Text} (before : FirstBefore changes key other) (new : α) :
    FirstBefore (changes ++ [.register new]) key other := by
  obtain ⟨place, later, least, least', lt⟩ := before
  exact ⟨place, later, isLeast_register least new, isLeast_register least' new, lt⟩

theorem FirstBefore.ne {other : Text} (before : FirstBefore changes key other) : key ≠ other := by
  rintro rfl
  obtain ⟨place, later, least, least', lt⟩ := before
  exact lt.ne (least.unique least')

/-! ## The invariant -/

/-- The keys and values of the registry are those that its history says. -/
structure Remembers (changes : List (Change α)) (registry : Registry α) : Prop where
  get?_eq_some_iff : ∀ key definition,
    registry.get? key = some definition ↔ Latest changes key definition
  mem_keys_iff : ∀ key, key ∈ registry.keys ↔ (places changes key).Nonempty
  keyed : Keyed registry
  ordered : registry.keys.Pairwise (FirstBefore changes)

/-- An empty registry remembers any history in which nothing counts. -/
theorem remembers_empty (nothing : ∀ key, places changes key = ∅) :
    Remembers changes (.empty : Registry α) where
  get?_eq_some_iff key definition := by
    rw [Store.get?_empty, Latest, nothing]
    exact iff_of_false nofun fun ⟨place, last, _⟩ => last.1
  mem_keys_iff key := by
    simp [nothing, Store.empty, Store.keys]
  keyed := keyed_empty
  ordered := List.Pairwise.nil

/-- A new key is listed behind those that are there. -/
theorem Remembers.ordered_register (remembers : Remembers changes registry) (new : α) :
    (registry.register new).keys.Pairwise (FirstBefore (changes ++ [.register new])) := by
  have kept : registry.keys.Pairwise (FirstBefore (changes ++ [.register new])) :=
    remembers.ordered.imp fun before => before.register new
  rw [register_eq_put, Store.keys_put]
  split
  · exact kept
  · rename_i missing
    have fresh : places changes (keyOf new) = ∅ := by
      rw [← Set.not_nonempty_iff_eq_empty, ← remembers.mem_keys_iff]
      exact missing
    rw [List.pairwise_append]
    refine ⟨kept, List.pairwise_singleton .., ?_⟩
    intro key known last here
    obtain rfl := List.mem_singleton.1 here
    -- Every place that counted so far lies before the new one.
    have counted : (places changes key).Nonempty := (remembers.mem_keys_iff key).1 known
    have least := isLeast_csInf counted
    exact ⟨_, changes.length, isLeast_register least new, isLeast_register_self fresh,
      lt_length_of_mem_places least.1⟩

/-- What a registry remembers is kept up to date by a registration. -/
theorem Remembers.register (remembers : Remembers changes registry) (new : α) :
    Remembers (changes ++ [.register new]) (registry.register new) where
  get?_eq_some_iff key definition := by
    by_cases same : key = keyOf new
    · subst same
      rw [latest_register_self, register_eq_put, Store.get?_put_self, Option.some.injEq, eq_comm]
    · rw [latest_register_of_ne same, register_eq_put, Store.get?_put_of_ne registry same]
      exact remembers.get?_eq_some_iff key definition
  mem_keys_iff key := by
    rw [register_eq_put, Store.mem_keys_put, remembers.mem_keys_iff]
    by_cases same : key = keyOf new
    · subst same
      simp [places_register_self]
    · rw [places_register_of_ne same]
      exact or_iff_right same
  keyed := remembers.keyed.register new
  ordered := remembers.ordered_register new

/-- What a registry holds after any changes is what they say. -/
theorem remembers_ofChanges (changes : List (Change α)) :
    Remembers changes (ofChanges changes) := by
  induction changes using List.reverseRecOn with
  | nil =>
    refine remembers_empty fun key => Set.eq_empty_iff_forall_notMem.2 fun place member => ?_
    exact absurd (lt_length_of_mem_places member) (Nat.not_lt_zero place)
  | append_singleton earlier last ih =>
    rw [ofChanges_concat]
    cases last with
    | register definition => exact ih.register definition
    | clear => exact remembers_empty (places_clear earlier)

/-! ## What a registry shows -/

theorem Remembers.map_keyOf_values (remembers : Remembers changes registry) :
    registry.values.map keyOf = registry.keys := by
  rw [Store.values, Store.keys, List.map_map]
  exact List.map_congr_left fun pair member => (remembers.keyed pair member).symm

theorem Remembers.nodup_keys (remembers : Remembers changes registry) : registry.keys.Nodup :=
  remembers.ordered.imp FirstBefore.ne

/-- A key has no definition exactly if none counts. -/
theorem Remembers.get?_eq_none_iff (remembers : Remembers changes registry) :
    registry.get? key = none ↔ places changes key = ∅ := by
  rw [Store.get?_eq_none_iff, remembers.mem_keys_iff, Set.not_nonempty_iff_eq_empty]

/-- What is listed is what is found under its key. -/
theorem Remembers.mem_values_iff (remembers : Remembers changes registry) :
    definition ∈ registry.values ↔ Latest changes (keyOf definition) definition := by
  rw [← remembers.get?_eq_some_iff]
  constructor
  · intro member
    obtain ⟨pair, held, rfl⟩ := List.mem_map.1 member
    have key : pair.1 = keyOf pair.2 := remembers.keyed pair held
    rw [← key]
    exact Store.get?_of_mem remembers.nodup_keys held
  · exact Store.mem_values_of_get?

/-- **A registry shows the latest definitions in the order of first registration.**  After any
history, the definition that is found under a name is the one that was registered last, whatever
the case of the names, since the registry was cleared.  These definitions are listed once each, and
one that took the place of an earlier one is listed where the earlier one was. -/
theorem ofChanges_reports_latest (changes : List (Change α)) :
    Reports changes (ofChanges changes) := by
  have remembers := remembers_ofChanges changes
  have keys := remembers.map_keyOf_values
  refine ⟨?found, ?missing, ?defined, ?listed, ?distinct, ?ordered⟩
  case found =>
    intro name definition
    exact remembers.get?_eq_some_iff (Text.upper name) definition
  case missing =>
    intro name
    exact remembers.get?_eq_none_iff
  case defined =>
    intro name
    exact Option.isSome_iff_exists
  case listed =>
    intro definition
    exact remembers.mem_values_iff
  case distinct =>
    rw [keys]
    exact remembers.nodup_keys
  case ordered =>
    rw [← List.pairwise_map (f := keyOf), keys]
    exact remembers.ordered

/-- The two spellings of a street have the same capitals, so the later one takes the place of the
earlier one.  The other name is behind them, since what was registered before the registry was
cleared does not count. -/
example :
    let routine (name : Text) (line : Int) : Change Routine := .register ⟨name, none, line, [], none⟩
    (ofChanges [routine "b" 0, .clear, routine "straße" 1, routine "B" 2,
      routine "STRASSE" 3]).values.map Routine.line = [3, 2] := by
  decide +kernel

end Registry

end Sm83Cost
