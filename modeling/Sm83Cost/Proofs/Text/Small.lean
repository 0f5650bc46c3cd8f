import Sm83Cost.Proofs.Text.Capitals

/-!
# Small letters

A text is compared with a word in small letters.  Small forms of letters beyond ASCII lie beyond
ASCII as well; the exceptions are the Kelvin sign, whose small form is the letter `k`, and the
dotted capital `I`, whose small form brings a dot with it that does.  So a text has the small
form of an ASCII word without a `k` exactly if it is that word with some letters in capitals
(`lower_eq_iff`).
-/

namespace Sm83Cost.Text

set_option autoImplicit false

open Case (Run small smallRuns lowerAfter)

/-! ## Letters, one by one -/

theorem small_of_ascii {c : Char} (ascii : c.toNat < 128) : small c = [c.toLower] :=
  if_pos ascii

theorem toLower_of_beyond {c : Char} (beyond : 128 ≤ c.toNat) : c.toLower = c := by
  refine dif_neg fun within => ?_
  simp only [UInt32.le_iff_toNat_le] at within
  have most : c.toNat ≤ 90 := within.2
  omega

/-- The small form of a letter beyond ASCII holds a character that is beyond ASCII, no character
at all, or the letter `k`. -/
theorem exists_mem_small {c : Char} (beyond : 128 ≤ c.toNat) :
    ∃ d ∈ small c, 128 ≤ d.toNat ∨ d.toNat = 0 ∨ d = 'k' := by
  have above : ¬ c.toNat < 0x80 := by omega
  rw [small, if_neg above]
  split
  · exact ⟨Char.ofNat 0x307, by simp, .inl (by decide)⟩
  · refine ⟨_, List.mem_singleton_self _, ?_⟩
    rw [Run.shift]
    cases found : smallRuns.find? (·.covers c.toNat) with
    | none => exact .inl beyond
    | some run =>
      have each : ∀ run ∈ smallRuns,
          run.Avoids (1, 127) ∨ run.first = 0x212A ∧ run.last = 0x212A ∧ run.distance = -8383 := by
        decide +kernel
      have covered : run.covers c.toNat = true := (List.find?_some found :)
      rcases each run (List.mem_of_find?_eq_some found) with avoids | ⟨first, last, distance⟩
      · have outside := avoids.not_mem (by decide) covered
        dsimp only at outside ⊢
        omega
      · simp only [Run.covers, Bool.and_eq_true, decide_eq_true_eq] at covered
        have kelvin : c.toNat = 0x212A := by omega
        simp only [kelvin, distance]
        exact .inr (.inr (by decide))

/-! ## Texts -/

/-- The characters of words that have no small form but themselves and no other origin. -/
def IsPlainSmall (c : Char) : Prop :=
  0 < c.toNat ∧ c.toNat < 128 ∧ c ≠ 'k'

instance (c : Char) : Decidable (IsPlainSmall c) :=
  inferInstanceAs (Decidable (_ ∧ _))

theorem lowerAfter_of_ascii {text : Text} (ascii : ∀ c ∈ text, c.toNat < 128) (before : Text) :
    lowerAfter before text = text.map Char.toLower := by
  induction text generalizing before with
  | nil => rfl
  | cons c rest ih =>
    have here := ascii c List.mem_cons_self
    have plain : ¬ c.toNat = 0x3A3 := by omega
    rw [lowerAfter, if_neg plain, small_of_ascii here,
      ih fun other member => ascii other (List.mem_cons_of_mem c member)]
    rfl

/-- A text whose small form is made of plain characters is an ASCII text. -/
theorem ascii_of_lowerAfter {text before : Text}
    (plain : ∀ c ∈ lowerAfter before text, IsPlainSmall c) : ∀ c ∈ text, c.toNat < 128 := by
  induction text generalizing before with
  | nil => simp
  | cons c rest ih =>
    rw [lowerAfter] at plain
    split at plain
    · rename_i sigma
      have final := plain _ List.mem_cons_self
      unfold IsPlainSmall at final
      split at final
      · exact absurd final (by decide)
      · exact absurd final (by decide)
    · have later := ih fun d member => plain d (List.mem_append_right _ member)
      intro other member
      rcases List.mem_cons.1 member with rfl | there
      · by_contra beyond
        obtain ⟨d, inside, foreign⟩ := exists_mem_small (Nat.le_of_not_lt beyond)
        obtain ⟨positive, ascii, letter⟩ := plain d (List.mem_append_left _ inside)
        rcases foreign with above | zero | kelvin
        · omega
        · omega
        · exact letter kelvin
      · exact later other there

/-- A text has the small form of a plain word exactly if its ASCII letters have. -/
theorem lower_eq_iff {word : Text} (plain : ∀ c ∈ word, IsPlainSmall c) {text : Text} :
    lower text = word ↔ text.map Char.toLower = word := by
  constructor
  · intro small
    have ascii : ∀ c ∈ text, c.toNat < 128 := by
      have written : lowerAfter [] text = word := small
      apply ascii_of_lowerAfter
      rw [written]
      exact plain
    rw [← small, lower, lowerAfter_of_ascii ascii]
  · intro small
    have ascii : ∀ c ∈ text, c.toNat < 128 := by
      intro c member
      by_contra beyond
      have same := toLower_of_beyond (Nat.le_of_not_lt beyond)
      have inside : c ∈ word := by
        rw [← small, ← same]
        exact List.mem_map_of_mem member
      exact beyond (plain c inside).2.1
    rw [lower, lowerAfter_of_ascii ascii, small]

end Sm83Cost.Text
