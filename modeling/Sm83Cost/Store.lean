import Sm83Cost.Text.Basic

/-!
# Stores

A store keeps one value for each key, in the order in which the keys were first
written.  Writing a key again changes its value and keeps its place.
-/

namespace Sm83Cost

set_option autoImplicit false

/-- Values under keys, in the order of first writing. -/
structure Store (α : Type) where
  pairs : List (Text × α) := []
deriving DecidableEq, Repr

namespace Store

variable {α : Type}

/-- The store without keys. -/
def empty : Store α := {}

/-- The value under a key. -/
def get? (store : Store α) (key : Text) : Option α :=
  store.pairs.lookup key

/-- The key has a value. -/
def contains (store : Store α) (key : Text) : Bool :=
  (store.get? key).isSome

/-- Replaces the value of a key in a list of pairs, or adds the key at the end. -/
def putIn (key : Text) (value : α) : List (Text × α) → List (Text × α)
  | [] => [(key, value)]
  | (other, kept) :: rest =>
    if key = other then (key, value) :: rest else (other, kept) :: putIn key value rest

/-- Gives a key a value. -/
def put (store : Store α) (key : Text) (value : α) : Store α :=
  { pairs := putIn key value store.pairs }

/-- Takes a key and its value out. -/
def erase (store : Store α) (key : Text) : Store α :=
  { pairs := store.pairs.filter (·.1 != key) }

/-- The keys in order. -/
def keys (store : Store α) : List Text :=
  store.pairs.map Prod.fst

/-- The values in order. -/
def values (store : Store α) : List α :=
  store.pairs.map Prod.snd

/-- The store with a function applied to every value. -/
def map {β : Type} (f : α → β) (store : Store α) : Store β where
  pairs := store.pairs.map fun (key, value) => (key, f value)

/-- The store after writing pairs in order. -/
def ofList (pairs : List (Text × α)) : Store α :=
  pairs.foldl (fun store pair => store.put pair.1 pair.2) empty

/-! ## What is found after a change -/

@[simp]
theorem get?_empty (key : Text) : (empty : Store α).get? key = none := rfl

theorem lookup_putIn_self (key : Text) (value : α) (pairs : List (Text × α)) :
    (putIn key value pairs).lookup key = some value := by
  induction pairs with
  | nil => simp [putIn]
  | cons pair rest ih =>
    obtain ⟨other, kept⟩ := pair
    by_cases same : key = other
    · simp [putIn, same]
    · have differs : (key == other) = false := by simpa using same
      simp only [putIn, if_neg same, List.lookup_cons, differs, ih]

theorem lookup_putIn_of_ne {key other : Text} (differs : other ≠ key) (value : α)
    (pairs : List (Text × α)) : (putIn key value pairs).lookup other = pairs.lookup other := by
  have unequal : (other == key) = false := by simpa using differs
  induction pairs with
  | nil => simp only [putIn, List.lookup_cons, unequal]
  | cons pair rest ih =>
    obtain ⟨first, kept⟩ := pair
    by_cases same : key = first
    · subst same
      simp only [putIn, if_true, List.lookup_cons, unequal]
    · simp only [putIn, if_neg same, List.lookup_cons, ih]

/-- A key has the value that it was given last. -/
@[simp]
theorem get?_put_self (store : Store α) (key : Text) (value : α) :
    (store.put key value).get? key = some value :=
  lookup_putIn_self key value store.pairs

/-- Giving one key a value leaves the others alone. -/
theorem get?_put_of_ne (store : Store α) {key other : Text} (differs : other ≠ key) (value : α) :
    (store.put key value).get? other = store.get? other :=
  lookup_putIn_of_ne differs value store.pairs

/-- A key that is taken out has no value. -/
@[simp]
theorem get?_erase_self (store : Store α) (key : Text) : (store.erase key).get? key = none := by
  obtain ⟨pairs⟩ := store
  simp only [erase, get?]
  induction pairs with
  | nil => rfl
  | cons pair rest ih =>
    obtain ⟨other, kept⟩ := pair
    by_cases same : key = other
    · simp only [same, List.filter_cons, bne_self_eq_false, Bool.false_eq_true, if_false]
      rwa [same] at ih
    · have differs : (key == other) = false := by simpa using same
      have stays : (other != key) = true := by simpa using Ne.symm same
      simp only [List.filter_cons, stays, if_true, List.lookup_cons, differs, ih]

/-- Taking one key out leaves the others alone. -/
theorem get?_erase_of_ne (store : Store α) {key other : Text} (differs : other ≠ key) :
    (store.erase key).get? other = store.get? other := by
  obtain ⟨pairs⟩ := store
  simp only [erase, get?]
  induction pairs with
  | nil => rfl
  | cons pair rest ih =>
    obtain ⟨first, kept⟩ := pair
    by_cases same : first = key
    · have unequal : (other == first) = false := by simpa [same] using differs
      simp only [same, List.filter_cons, bne_self_eq_false, Bool.false_eq_true, if_false, ih]
      rw [List.lookup_cons, ← same, unequal]
    · have stays : (first != key) = true := by simpa using same
      simp only [List.filter_cons, stays, if_true, List.lookup_cons, ih]

/-- What is found after a function is applied to every value. -/
@[simp]
theorem get?_map {β : Type} (f : α → β) (store : Store α) (key : Text) :
    (store.map f).get? key = (store.get? key).map f := by
  obtain ⟨pairs⟩ := store
  simp only [map, get?]
  induction pairs with
  | nil => rfl
  | cons pair rest ih =>
    obtain ⟨other, kept⟩ := pair
    simp only [List.map_cons, List.lookup_cons]
    cases key == other with
    | true => rfl
    | false => exact ih

/-- A value may be written before or after a function is applied to every value. -/
theorem map_put {β : Type} (f : α → β) (store : Store α) (key : Text) (value : α) :
    (store.put key value).map f = (store.map f).put key (f value) := by
  obtain ⟨pairs⟩ := store
  simp only [map, put, mk.injEq]
  induction pairs with
  | nil => rfl
  | cons pair rest ih =>
    by_cases same : key = pair.1
    · simp [putIn, same]
    · simp [putIn, same, ih]

/-- The function that leaves values alone leaves the store alone. -/
@[simp]
theorem map_id (store : Store α) : store.map id = store :=
  congrArg mk (List.map_id store.pairs)

theorem mem_of_lookup {pairs : List (Text × α)} {key : Text} {value : α}
    (found : pairs.lookup key = some value) : value ∈ pairs.map Prod.snd := by
  obtain ⟨before, after, rfl, -⟩ := List.lookup_eq_some_iff.1 found
  simp

/-- What is found under a key is one of the values. -/
theorem mem_values_of_get? {store : Store α} {key : Text} {value : α}
    (found : store.get? key = some value) : value ∈ store.values :=
  mem_of_lookup found

theorem eq_or_mem_of_mem_putIn {key : Text} {value : α} {pairs : List (Text × α)}
    {pair : Text × α} (member : pair ∈ putIn key value pairs) :
    pair = (key, value) ∨ pair ∈ pairs := by
  induction pairs with
  | nil => exact .inl (List.mem_singleton.1 member)
  | cons first rest ih =>
    obtain ⟨other, kept⟩ := first
    by_cases same : key = other
    · rw [putIn, if_pos same, List.mem_cons] at member
      exact member.imp_right (List.mem_cons_of_mem _)
    · rw [putIn, if_neg same, List.mem_cons] at member
      rcases member with rfl | later
      · exact .inr List.mem_cons_self
      · exact (ih later).imp_right (List.mem_cons_of_mem _)

/-- After a key is given a value, the values are among those of before and that one. -/
theorem eq_or_mem_of_mem_put {store : Store α} {key : Text} {value other : α}
    (member : other ∈ (store.put key value).values) : other = value ∨ other ∈ store.values := by
  obtain ⟨pair, held, rfl⟩ := List.mem_map.1 member
  rcases eq_or_mem_of_mem_putIn held with rfl | known
  · exact .inl rfl
  · exact .inr (List.mem_map_of_mem known)

theorem map_fst_putIn (key : Text) (value : α) (pairs : List (Text × α)) :
    (putIn key value pairs).map Prod.fst =
      if key ∈ pairs.map Prod.fst then pairs.map Prod.fst else pairs.map Prod.fst ++ [key] := by
  induction pairs with
  | nil => simp [putIn]
  | cons pair rest ih =>
    obtain ⟨other, kept⟩ := pair
    by_cases same : key = other
    · simp [putIn, same]
    · by_cases known : key ∈ rest.map Prod.fst <;> simp_all [putIn]

/-- A key keeps its place, and a new one comes last. -/
theorem keys_put (store : Store α) (key : Text) (value : α) :
    (store.put key value).keys =
      if key ∈ store.keys then store.keys else store.keys ++ [key] :=
  map_fst_putIn key value store.pairs

/-- After a key is given a value, the keys are those of before and that one. -/
theorem mem_keys_put (store : Store α) (key other : Text) (value : α) :
    other ∈ (store.put key value).keys ↔ other = key ∨ other ∈ store.keys := by
  rw [keys_put]
  by_cases known : key ∈ store.keys
  · rw [if_pos known]
    exact ⟨Or.inr, fun found => found.elim (fun same => same ▸ known) id⟩
  · rw [if_neg known, List.mem_append, List.mem_singleton]
    exact Or.comm

/-! ## One change after another -/

/-- Of two values that a key is given, the later one stays. -/
theorem putIn_putIn_self (key : Text) (value earlier : α) (pairs : List (Text × α)) :
    putIn key value (putIn key earlier pairs) = putIn key value pairs := by
  induction pairs with
  | nil => simp [putIn]
  | cons pair rest ih =>
    by_cases same : key = pair.1
    · simp [putIn, same]
    · simp [putIn, same, ih]

/-- Two keys may be given values in any order, if one of them is there already. -/
theorem putIn_putIn_of_ne {key other : Text} (differs : other ≠ key) (value kept : α)
    {pairs : List (Text × α)} (known : other ∈ pairs.map Prod.fst) :
    putIn other kept (putIn key value pairs) = putIn key value (putIn other kept pairs) := by
  induction pairs with
  | nil => cases known
  | cons pair rest ih =>
    obtain ⟨first, held⟩ := pair
    by_cases same : key = first
    · subst same
      simp [putIn, differs]
    · by_cases here : other = first
      · subst here
        simp [putIn, same]
      · have later : other ∈ rest.map Prod.fst := by simpa [here] using known
        simp [putIn, same, here, ih later]

theorem put_put_self (store : Store α) (key : Text) (value earlier : α) :
    (store.put key earlier).put key value = store.put key value :=
  congrArg mk (putIn_putIn_self key value earlier store.pairs)

theorem put_put_of_ne {store : Store α} {key other : Text} (differs : other ≠ key)
    (value kept : α) (known : other ∈ store.keys) :
    (store.put key value).put other kept = (store.put other kept).put key value :=
  congrArg mk (putIn_putIn_of_ne differs value kept known)

end Store

end Sm83Cost
