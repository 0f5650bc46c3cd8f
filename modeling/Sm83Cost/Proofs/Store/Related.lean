import Mathlib.Data.List.Forall2
import Sm83Cost.Store

/-!
# Stores that keep step with each other

Two stores are related when they have the same keys in the same order and the
values under each key are related.  Writing related values under one key keeps
two stores related (`Related.put`), and what is found under a key is related too
(`Related.get?`).  So a relation between values is carried through every sequence
of writes.
-/

namespace Sm83Cost.Store

set_option autoImplicit false

variable {α β : Type} {relation : α → β → Prop}

/-- The stores have the same keys in the same order, with related values. -/
def Related (relation : α → β → Prop) (first : Store α) (second : Store β) : Prop :=
  List.Forall₂ (fun one other => one.1 = other.1 ∧ relation one.2 other.2) first.pairs second.pairs

theorem related_empty : Related relation (empty : Store α) (empty : Store β) := .nil

theorem Related.keys {first : Store α} {second : Store β}
    (related : Related relation first second) : first.keys = second.keys := by
  obtain ⟨pairs⟩ := first
  obtain ⟨others⟩ := second
  simp only [Related, Store.keys] at related ⊢
  induction related with
  | nil => rfl
  | cons here _ ih => rw [List.map_cons, List.map_cons, here.1, ih]

/-- What is found under a key is related, or there is nothing in either store. -/
theorem Related.get? {first : Store α} {second : Store β} (related : Related relation first second)
    (key : Text) : Option.Rel relation (first.get? key) (second.get? key) := by
  obtain ⟨pairs⟩ := first
  obtain ⟨others⟩ := second
  simp only [Related, Store.get?] at related ⊢
  induction related with
  | nil => exact .none
  | @cons one other rest others here _ ih =>
    obtain ⟨key', value⟩ := one
    obtain ⟨_, value'⟩ := other
    obtain ⟨rfl, values⟩ := here
    cases same : key == key' with
    | true =>
      simp only [List.lookup_cons, same]
      exact .some values
    | false =>
      simp only [List.lookup_cons, same]
      exact ih

theorem Related.exists_get? {first : Store α} {second : Store β}
    (related : Related relation first second) {key : Text} {value : α}
    (found : first.get? key = some value) :
    ∃ value', second.get? key = some value' ∧ relation value value' := by
  have both := related.get? key
  rw [found] at both
  cases other : second.get? key with
  | none =>
    rw [other] at both
    cases both
  | some value' =>
    rw [other] at both
    cases both with
    | some values => exact ⟨value', rfl, values⟩

theorem Related.contains {first : Store α} {second : Store β}
    (related : Related relation first second) (key : Text) :
    first.contains key = second.contains key := by
  have both := related.get? key
  unfold Store.contains
  revert both
  cases first.get? key <;> cases second.get? key <;> intro both <;> first | rfl | cases both

/-- Related values may be written under one key. -/
theorem Related.put {first : Store α} {second : Store β} (related : Related relation first second)
    (key : Text) {value : α} {value' : β} (values : relation value value') :
    Related relation (first.put key value) (second.put key value') := by
  obtain ⟨pairs⟩ := first
  obtain ⟨others⟩ := second
  simp only [Related, Store.put] at related ⊢
  induction related with
  | nil => exact .cons ⟨rfl, values⟩ .nil
  | @cons one other rest others here rests ih =>
    obtain ⟨key', kept⟩ := one
    obtain ⟨_, kept'⟩ := other
    obtain ⟨rfl, old⟩ := here
    by_cases same : key = key'
    · simp only [putIn, if_pos same]
      exact .cons ⟨rfl, values⟩ rests
    · simp only [putIn, if_neg same]
      exact .cons ⟨rfl, old⟩ ih

end Sm83Cost.Store
