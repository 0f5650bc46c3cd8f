import Mathlib.Data.List.Forall2

/-!
# Lists that are worked through in order

A list is worked through from its first element on.  Either every step succeeds and the results
stand in the order of the elements (`mapM_eq_ok`), or the first step that fails decides what is
reported, whatever comes behind it (`mapM_eq_error`).  So it is enough for success that every step
succeeds by itself (`exists_mapM_eq_ok`).
-/

namespace Sm83Cost.Traversal

set_option autoImplicit false

variable {α β ε : Type}

/-! ## Lists side by side -/

section Related

variable {related : α → β → Prop} {items : List α} {results : List β}

theorem exists_of_mem (each : List.Forall₂ related items results) {item : α}
    (member : item ∈ items) : ∃ result ∈ results, related item result := by
  induction each with
  | nil => cases member
  | @cons first result _ _ here _ ih =>
    rcases List.mem_cons.1 member with rfl | later
    · exact ⟨result, List.mem_cons_self, here⟩
    · obtain ⟨result, among, there⟩ := ih later
      exact ⟨result, List.mem_cons_of_mem _ among, there⟩

/-- The last elements stand side by side. -/
theorem getLast?_related (each : List.Forall₂ related items results) :
    Option.Rel related items.getLast? results.getLast? := by
  induction each with
  | nil => exact .none
  | cons here others ih =>
    cases others with
    | nil => exact .some here
    | cons next behind =>
      rw [List.getLast?_cons_cons, List.getLast?_cons_cons]
      exact ih

end Related

/-! ## Steps that may fail -/

variable {step : α → Except ε β}

/-- All steps succeed exactly if each element gives the result in its place. -/
theorem mapM_eq_ok {items : List α} {results : List β} :
    items.mapM step = .ok results ↔
      List.Forall₂ (fun item result => step item = .ok result) items results := by
  induction items generalizing results with
  | nil => cases results <;> simp [pure, Except.pure]
  | cons item rest ih =>
    rw [List.mapM_cons]
    cases here : step item with
    | error cause => simp [bind, Except.bind, List.forall₂_cons_left_iff, here]
    | ok result =>
      cases there : rest.mapM step with
      | error cause =>
        have never : ∀ others,
            ¬ List.Forall₂ (fun item result => step item = .ok result) rest others := by
          intro others each
          rw [ih.2 each] at there
          cases there
        simp [bind, Except.bind, List.forall₂_cons_left_iff, never]
      | ok others =>
        have known := ih.1 there
        simp only [bind, Except.bind, pure, Except.pure, Except.ok.injEq,
          List.forall₂_cons_left_iff, here]
        constructor
        · rintro rfl
          exact ⟨result, others, rfl, known, rfl⟩
        · rintro ⟨_, others', rfl, each, rfl⟩
          rw [ih.2 each] at there
          cases there
          rfl

/-- A failure is that of the first element whose step fails. -/
theorem mapM_eq_error {items : List α} {cause : ε} :
    items.mapM step = .error cause ↔
      ∃ before item after, items = before ++ item :: after ∧
        (∀ earlier ∈ before, ∃ result, step earlier = .ok result) ∧
        step item = .error cause := by
  induction items with
  | nil => simp [pure, Except.pure]
  | cons first rest ih =>
    rw [List.mapM_cons]
    cases here : step first with
    | error reason =>
      simp only [bind, Except.bind, Except.error.injEq]
      constructor
      · rintro rfl
        exact ⟨[], first, rest, rfl, by simp, here⟩
      · rintro ⟨before, item, after, split, earlier, fails⟩
        cases before with
        | nil =>
          cases split
          rw [here] at fails
          exact Except.error.inj fails
        | cons other before =>
          cases split
          obtain ⟨result, succeeds⟩ := earlier _ List.mem_cons_self
          rw [here] at succeeds
          cases succeeds
    | ok result =>
      have behind : (Except.ok result >>= fun first => rest.mapM step >>= fun others =>
          pure (first :: others)) = .error cause ↔ rest.mapM step = .error cause := by
        cases rest.mapM step <;> simp [bind, Except.bind, pure, Except.pure]
      rw [behind, ih]
      constructor
      · rintro ⟨before, item, after, rfl, earlier, fails⟩
        refine ⟨first :: before, item, after, rfl, ?_, fails⟩
        intro other member
        rcases List.mem_cons.1 member with rfl | later
        · exact ⟨result, here⟩
        · exact earlier other later
      · rintro ⟨before, item, after, split, earlier, fails⟩
        cases before with
        | nil =>
          cases split
          rw [here] at fails
          cases fails
        | cons other before =>
          cases split
          exact ⟨before, item, after, rfl,
            fun other member => earlier other (List.mem_cons_of_mem _ member), fails⟩

/-- If the step succeeds on each element, the list is worked through. -/
theorem exists_mapM_eq_ok {items : List α}
    (each : ∀ item ∈ items, ∃ result, step item = .ok result) :
    ∃ results, items.mapM step = .ok results := by
  cases made : items.mapM step with
  | ok results => exact ⟨results, rfl⟩
  | error cause =>
    obtain ⟨before, item, after, rfl, -, fails⟩ := mapM_eq_error.1 made
    obtain ⟨result, succeeds⟩ := each item (by simp)
    rw [fails] at succeeds
    cases succeeds

end Sm83Cost.Traversal
