import Mathlib.Data.List.Basic
import Sm83Cost.Proofs.Text.Keyword
import Sm83Cost.Text.Case

/-!
# What capitals are made of

The capitals of a letter beyond ASCII lie beyond ASCII too, but for a few letters
like the long `s`, and they are never blanks or marks.  So a text has its blanks
and marks where its capitals have theirs (`eq_of_capital`).

Capitals have no capitals but themselves, so a text is in capitals after it is put
in capitals once (`upper_upper`).

Both are facts about the tables of capitals.  A run leads to a whole range of code
points, and it is enough to compare this range with those in question.  Only where
every other letter is a capital, as in the Latin extensions, the ranges meet, and
what lies at an even distance in one is told from what does in the other.
-/

namespace Sm83Cost.Text

set_option autoImplicit false

open Case (Run capital capitalRuns capitalExpansions)

/-! ## Where runs lead -/

/-- No code point of the range lies at the distance of the run from one of the run. -/
def Case.Run.Avoids (run : Run) (range : Nat × Nat) : Prop :=
  (run.last : Int) + run.distance < range.1 ∨ (range.2 : Int) < run.first + run.distance

instance (run : Run) (range : Nat × Nat) : Decidable (run.Avoids range) :=
  inferInstanceAs (Decidable (_ ∨ _))

/-- A character that is shifted by a run does not come into a range that the run avoids. -/
theorem Case.Run.Avoids.not_mem {run : Run} {range : Nat × Nat} (avoids : run.Avoids range)
    (positive : 0 < range.1) {c : Char} (covered : run.covers c.toNat = true) :
    ¬ (range.1 ≤ (Char.ofNat (c.toNat + run.distance).toNat).toNat ∧
      (Char.ofNat (c.toNat + run.distance).toNat).toNat ≤ range.2) := by
  simp only [Run.covers, Bool.and_eq_true, decide_eq_true_eq] at covered
  obtain ⟨⟨least, most⟩, -⟩ := covered
  unfold Run.Avoids at avoids
  rcases toNat_ofNat (c.toNat + run.distance).toNat with same | invalid <;> omega

/-- A character that is shifted at all comes into no range that all runs avoid. -/
theorem shift_cases {range : Nat × Nat} (positive : 0 < range.1)
    (avoided : ∀ run ∈ capitalRuns, run.Avoids range) (c : Char) :
    Run.shift capitalRuns c = c ∨
      ¬ (range.1 ≤ (Run.shift capitalRuns c).toNat ∧
        (Run.shift capitalRuns c).toNat ≤ range.2) := by
  rw [Run.shift]
  cases found : capitalRuns.find? (·.covers c.toNat) with
  | none => exact .inl rfl
  | some run =>
    exact .inr ((avoided run (List.mem_of_find?_eq_some found)).not_mem positive
      (List.find?_some found :))

/-! ## Capitals, one by one -/

/-- What holds of the capitals of ASCII characters, of those in the table of expansions, and of a
character that is shifted holds of all capitals. -/
theorem capital_induction {motive : Char → Text → Prop}
    (ascii : ∀ code < 128, motive (Char.ofNat code) [(Char.ofNat code).toUpper])
    (expanded : ∀ c : Char, ∀ entry ∈ capitalExpansions, entry.1 = c.toNat →
      motive c (entry.2.map Char.ofNat))
    (shifted : ∀ c : Char, 128 ≤ c.toNat → capital c = [Run.shift capitalRuns c] →
      motive c [Run.shift capitalRuns c]) (c : Char) :
    motive c (capital c) := by
  by_cases low : c.toNat < 128
  · have here := ascii c.toNat low
    rw [Char.ofNat_toNat] at here
    rwa [capital, if_pos low]
  · cases found : capitalExpansions.lookup c.toNat with
    | none =>
      have whole : capital c = [Run.shift capitalRuns c] := by
        rw [capital, if_neg low, found]
      rw [whole]
      exact shifted c (Nat.le_of_not_lt low) whole
    | some codes =>
      have whole : capital c = codes.map Char.ofNat := by
        rw [capital, if_neg low, found]
      rw [whole]
      obtain ⟨before, behind, table, -⟩ := List.lookup_eq_some_iff.1 found
      have listed : (c.toNat, codes) ∈ capitalExpansions := by
        rw [table]
        exact List.mem_append_right before List.mem_cons_self
      exact expanded c _ listed rfl

theorem capital_ne_nil (c : Char) : capital c ≠ [] := by
  refine capital_induction (motive := fun _ capitals => capitals ≠ []) ?_ ?_ ?_ c
  · exact fun _ _ => List.cons_ne_nil _ _
  · intro _ entry listed _
    have each : ∀ entry ∈ capitalExpansions, entry.2.map Char.ofNat ≠ [] := by decide
    exact each entry listed
  · exact fun _ _ _ => List.cons_ne_nil _ _

/-! ## Blanks and marks -/

/-- The blanks, quotes, brackets and the comma. -/
def separators : Text :=
  blanks ++ ['"', '\'', '(', ')', '[', ']', ',']

/-- Blanks and marks come only from themselves. -/
theorem eq_of_capital {c d : Char} (member : d ∈ capital c) (separates : d ∈ separators) :
    d = c := by
  refine capital_induction (motive := fun c capitals =>
    ∀ d ∈ capitals, d ∈ separators → d = c) ?_ ?_ ?_ c d member separates
  · intro code low d member separates
    have each : ∀ code < 128, (Char.ofNat code).toUpper ∈ separators →
        (Char.ofNat code).toUpper = Char.ofNat code := by
      decide +kernel
    rw [List.mem_singleton] at member
    rw [member] at separates ⊢
    exact each code low separates
  · intro _ entry listed _ d member separates
    have each : ∀ entry ∈ capitalExpansions, ∀ code ∈ entry.2, Char.ofNat code ∉ separators := by
      decide
    obtain ⟨code, inside, rfl⟩ := List.mem_map.1 member
    exact absurd separates (each entry listed code inside)
  · intro c _ _ d member separates
    rw [List.mem_singleton] at member
    subst member
    have ranges : ∀ d ∈ separators, ∃ range ∈ (0x20, 0x2C) :: (0x5B, 0x5D) :: blankRanges,
        0 < range.1 ∧ range.1 ≤ d.toNat ∧ d.toNat ≤ range.2 :=
      forall_mem_of_all (by decide)
    have avoided : ∀ range ∈ (0x20, 0x2C) :: (0x5B, 0x5D) :: blankRanges,
        ∀ run ∈ capitalRuns, run.Avoids range := by
      decide +kernel
    obtain ⟨range, listed, positive, within⟩ := ranges _ separates
    exact (shift_cases positive (avoided range listed) c).resolve_right (not_not.2 within)

/-- Blanks and marks are their own capitals. -/
theorem capital_of_separator {c : Char} (separates : c ∈ separators) : capital c = [c] := by
  have each : ∀ c ∈ separators, capital c = [c] := forall_mem_of_all (by decide +kernel)
  exact each c separates

/-! ## Capitals of capitals -/

/-- Where the run leads from a code point. -/
def Case.Run.leadsTo (run : Run) (code : Nat) : Nat :=
  (code + run.distance).toNat

/-- A run of one code point. -/
def Case.Run.only (code : Nat) : Run :=
  ⟨code, code, 2, 0⟩

/-- The run may lead to a code point of the other one: the ranges meet, and unless both take every
second code point, it cannot be that they miss each other. -/
def Case.Run.meets (run other : Run) : Bool :=
  Nat.ble (run.leadsTo run.first) other.last && Nat.ble other.first (run.leadsTo run.last) &&
    !(other.stride == 2 && (run.stride == 2 || run.first == run.last) &&
      (run.leadsTo run.first + other.first) % 2 == 1)

/-- A character that is shifted by a run is not shifted by one that this run does not meet. -/
theorem Case.Run.covers_eq_false {run other : Run} (apart : run.meets other = false)
    (forward : 0 ≤ (run.first : Int) + run.distance) {code : Nat}
    (covered : run.covers code = true) : other.covers (run.leadsTo code) = false := by
  rw [Bool.eq_false_iff]
  intro again
  simp only [covers, Bool.and_eq_true, decide_eq_true_eq, beq_iff_eq] at covered again
  obtain ⟨⟨least, most⟩, steps⟩ := covered
  obtain ⟨⟨least', most'⟩, steps'⟩ := again
  have inside : Nat.ble (run.leadsTo run.first) other.last = true ∧
      Nat.ble other.first (run.leadsTo run.last) = true := by
    unfold leadsTo at *
    rw [Nat.ble_eq, Nat.ble_eq]
    omega
  rw [meets, inside.1, inside.2] at apart
  simp only [Bool.true_and, Bool.not_eq_false', Bool.and_eq_true, Bool.or_eq_true,
    beq_iff_eq] at apart
  obtain ⟨⟨stride', alone⟩, odd⟩ := apart
  rw [stride'] at steps'
  unfold leadsTo at *
  rcases alone with stride | alone
  · rw [stride] at steps
    omega
  · omega

/-- What neither is expanded nor belongs to a run is its own capital. -/
theorem capital_of_unlisted {c : Char} (beyond : 128 ≤ c.toNat)
    (whole : ∀ entry ∈ capitalExpansions, entry.1 ≠ c.toNat)
    (still : ∀ run ∈ capitalRuns, run.covers c.toNat = false) : capital c = [c] := by
  have unexpanded : capitalExpansions.lookup c.toNat = none := by
    rw [List.lookup_eq_none_iff]
    intro entry listed
    exact bne_iff_ne.2 (whole entry listed).symm
  have uncovered : capitalRuns.find? (·.covers c.toNat) = none := by
    rw [List.find?_eq_none]
    intro run listed
    rw [still run listed]
    exact Bool.false_ne_true
  rw [capital, if_neg (Nat.not_lt.2 beyond), unexpanded]
  dsimp only
  rw [Run.shift, uncovered]

theorem capital_of_ascii {c : Char} (ascii : c.toNat < 128)
    (large : ¬ (0x61 ≤ c.toNat ∧ c.toNat ≤ 0x7A)) : capital c = [c] := by
  have each : ∀ code < 128, ¬ (0x61 ≤ code ∧ code ≤ 0x7A) →
      capital (Char.ofNat code) = [Char.ofNat code] := by
    decide +kernel
  have here := each c.toNat ascii large
  rwa [Char.ofNat_toNat] at here

/-- What a run leads to is its own capital. -/
theorem capital_shift {run : Run} (listed : run ∈ capitalRuns) {c : Char}
    (covered : run.covers c.toNat = true) :
    capital (Char.ofNat (run.leadsTo c.toNat)) = [Char.ofNat (run.leadsTo c.toNat)] := by
  by_cases beyond : 128 ≤ (Char.ofNat (run.leadsTo c.toNat)).toNat
  · have valid := (toNat_ofNat (run.leadsTo c.toNat)).resolve_right (by omega)
    have each : ∀ run ∈ capitalRuns, 0 ≤ (run.first : Int) + run.distance ∧
        capitalRuns.any run.meets = false ∧
        (capitalExpansions.any fun entry => run.meets (.only entry.1)) = false := by
      decide +kernel
    obtain ⟨forward, runs, expansions⟩ := each run listed
    rw [List.any_eq_false] at runs expansions
    refine capital_of_unlisted beyond ?_ ?_
    · intro entry among same
      have missed := Run.covers_eq_false (Bool.eq_false_iff.2 (expansions entry among)) forward
        covered
      rw [← valid, ← same] at missed
      simp [Run.only, Run.covers] at missed
    · intro other among
      rw [valid]
      exact Run.covers_eq_false (Bool.eq_false_iff.2 (runs other among)) forward covered
  · have avoided : ∀ run ∈ capitalRuns, run.Avoids (0x61, 0x7A) := by decide +kernel
    exact capital_of_ascii (Nat.lt_of_not_le beyond)
      ((avoided run listed).not_mem (by decide) covered)

/-- Capitals are their own capitals. -/
theorem capital_of_capital {c d : Char} (member : d ∈ capital c) : capital d = [d] := by
  revert member
  refine capital_induction (motive := fun c capitals => d ∈ capitals → capital d = [d]) ?_ ?_ ?_ c
  · intro code low member
    have each : ∀ code < 128,
        capital (Char.ofNat code).toUpper = [(Char.ofNat code).toUpper] := by
      decide +kernel
    rw [List.mem_singleton.1 member]
    exact each code low
  · intro _ entry listed _ member
    have each : ∀ entry ∈ capitalExpansions, ∀ code ∈ entry.2,
        capital (Char.ofNat code) = [Char.ofNat code] := by
      decide +kernel
    obtain ⟨code, inside, rfl⟩ := List.mem_map.1 member
    exact each entry listed code inside
  · intro c _ shifted member
    rw [List.mem_singleton.1 member]
    cases found : capitalRuns.find? (·.covers c.toNat) with
    | none =>
      have still : Run.shift capitalRuns c = c := by rw [Run.shift, found]
      rw [still, shifted, still]
    | some run =>
      have leads : Run.shift capitalRuns c = Char.ofNat (run.leadsTo c.toNat) := by
        rw [Run.shift, found]
        rfl
      rw [leads]
      exact capital_shift (List.mem_of_find?_eq_some found) (List.find?_some found :)

/-- A text in capitals stays as it is when it is put in capitals again. -/
theorem upper_upper (text : Text) : upper (upper text) = upper text := by
  have each : ∀ d ∈ upper text, capital d = [d] := by
    intro d member
    obtain ⟨c, -, capitals⟩ := List.mem_flatMap.1 member
    exact capital_of_capital capitals
  rw [upper, List.flatMap_congr each, List.flatMap_singleton']

end Sm83Cost.Text
