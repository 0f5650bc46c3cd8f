import Mathlib.Data.List.Basic

/-!
# Repetitions

Of elements that occur more than once in a list, the first one is kept.  Proofs about
this go by induction on what is left when the first element of the list has been kept
and all that are equal to it are gone (`eraseDups_induction`).
-/

namespace Sm83Cost

set_option autoImplicit false

variable {α β : Type} [BEq α] [BEq β]

/-- Induction along the way in which repetitions are dropped: what is equal to the first element
goes, then the rest is considered. -/
theorem eraseDups_induction {motive : List α → Prop} (nil : motive [])
    (cons : ∀ first rest, motive (rest.filter fun other => !other == first) →
      motive (first :: rest)) : ∀ items, motive items
  | [] => nil
  | first :: rest => cons first rest (eraseDups_induction nil cons _)
termination_by items => items.length
decreasing_by exact Nat.lt_succ_of_le (List.length_filter_le _ rest)

variable [LawfulBEq α] [LawfulBEq β]

omit [BEq β] [LawfulBEq β] in
theorem nodup_eraseDups (items : List α) : items.eraseDups.Nodup := by
  induction items using eraseDups_induction with
  | nil => exact List.nodup_nil
  | cons first rest ih =>
    rw [List.eraseDups_cons, List.nodup_cons, List.mem_eraseDups]
    refine ⟨fun member => ?_, ih⟩
    simpa using (List.mem_filter.1 member).2

/-- If no two keys give the same value, it does not matter whether keys or values that occur again
are dropped. -/
theorem eraseDups_filterMap {look : α → Option β}
    (injective : ∀ {key other value}, look key = some value → look other = some value → key = other)
    (keys : List α) : (keys.filterMap look).eraseDups = keys.eraseDups.filterMap look := by
  induction keys using eraseDups_induction with
  | nil => rfl
  | cons first rest ih =>
    rw [List.eraseDups_cons]
    cases found : look first with
    | none =>
      have others : (rest.filter fun other => !other == first).filterMap look =
          rest.filterMap look := by
        rw [List.filterMap_filter]
        refine List.filterMap_congr fun other _ => ?_
        by_cases same : other = first
        · simp [same, found]
        · simp [same]
      rw [List.filterMap_cons_none found, List.filterMap_cons_none found, ← ih, others]
    | some value =>
      have others : (rest.filter fun other => !other == first).filterMap look =
          (rest.filterMap look).filter fun other => !other == value := by
        rw [List.filterMap_filter, List.filter_filterMap]
        refine List.filterMap_congr fun other _ => ?_
        by_cases same : other = first
        · simp [same, found, Option.filter_some]
        · cases there : look other with
          | none => simp [same]
          | some result =>
            have differs : result ≠ value := by
              rintro rfl
              exact same (injective there found)
            simp [same, differs, Option.filter_some]
      rw [List.filterMap_cons_some found, List.filterMap_cons_some found, List.eraseDups_cons,
        ← others, ih]

end Sm83Cost
