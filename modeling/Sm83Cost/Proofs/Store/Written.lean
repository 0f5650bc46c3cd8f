import Mathlib.Data.List.Induction
import Sm83Cost.Store

/-!
# Stores that are written pair by pair

A store that is written from a list of pairs has the keys of the pairs, each in the place where it
was written first (`keys_ofList`), with the value that was written last (`get?_ofList`).
-/

namespace Sm83Cost.Store

set_option autoImplicit false

variable {α : Type}

theorem ofList_concat (pairs : List (Text × α)) (pair : Text × α) :
    ofList (pairs ++ [pair]) = (ofList pairs).put pair.1 pair.2 := by
  rw [ofList, List.foldl_append]
  rfl

/-- The keys come in the order of first writing. -/
theorem keys_ofList (pairs : List (Text × α)) :
    (ofList pairs).keys = (pairs.map Prod.fst).eraseDups := by
  induction pairs using List.reverseRecOn with
  | nil => rfl
  | append_singleton pairs pair ih =>
    rw [ofList_concat, keys_put, ih, List.map_append, List.eraseDups_append]
    by_cases known : pair.1 ∈ (pairs.map Prod.fst).eraseDups
    · have listed : pair.1 ∈ pairs.map Prod.fst := List.mem_eraseDups.1 known
      simp only [if_pos known, List.removeAll, List.map_cons, List.map_nil]
      rw [List.filter_cons_of_neg (by simpa using listed)]
      simp
    · have fresh : pair.1 ∉ pairs.map Prod.fst := fun listed =>
        known (List.mem_eraseDups.2 listed)
      simp only [if_neg known, List.removeAll, List.map_cons, List.map_nil]
      rw [List.filter_cons_of_pos (by simpa using fresh)]
      simp [List.eraseDups_cons]

/-- Under each key is the value that was written last. -/
theorem get?_ofList (pairs : List (Text × α)) (key : Text) :
    (ofList pairs).get? key = ((pairs.filter (·.1 = key)).map Prod.snd).getLast? := by
  induction pairs using List.reverseRecOn with
  | nil => rfl
  | append_singleton pairs pair ih =>
    obtain ⟨written, value⟩ := pair
    rw [ofList_concat, List.filter_append, List.map_append]
    by_cases same : written = key
    · subst same
      simp
    · rw [get?_put_of_ne _ (Ne.symm same), ih]
      simp [same]

end Sm83Cost.Store
