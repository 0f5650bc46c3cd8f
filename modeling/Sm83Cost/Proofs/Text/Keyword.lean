import Sm83Cost.Proofs.Text.Caseless
import Sm83Cost.Proofs.Text.Trim

/-!
# Keywords

A keyword stands at the beginning of a text when the first characters are its
letters, in either case or in one of the few variants (`afterKeyword?_eq_some`).
These characters are all parts of words, and none of them is a blank or a mark.
-/

namespace Sm83Cost.Text

set_option autoImplicit false

/-- The ASCII letters and the variants of some of them. -/
def letters : Text :=
  smallLetters ++ smallLetters.map Char.toUpper ++ [0x130, 0x131, 0x17F, 0x212A].map Char.ofNat

theorem mem_letters {c : Char} (letter : isLetter c = true) : c ∈ letters := by
  by_cases ascii : c.toNat < 128
  · have each : ∀ code < 128, isLetter (Char.ofNat code) = true → Char.ofNat code ∈ letters := by
      decide
    have here := each c.toNat ascii
    rw [Char.ofNat_toNat] at here
    exact here letter
  · have variant : ∀ code ∈ [0x130, 0x131, 0x17F, 0x212A], c.toNat = code → c ∈ letters := by
      intro code member same
      rw [← Char.ofNat_toNat c, same]
      exact List.mem_append_right _ (List.mem_map_of_mem member)
    rw [isLetter, fold] at letter
    split at letter
    · rename_i dotted
      exact dotted.elim (variant _ (by decide)) (variant _ (by decide))
    · split at letter
      · rename_i long
        exact variant _ (by decide) long
      · split at letter
        · rename_i kelvin
          exact variant _ (by decide) kelvin
        · have same : c.toLower = c := by
            refine dif_neg ?_
            intro within
            simp only [UInt32.le_iff_toNat_le] at within
            exact ascii (Nat.lt_of_le_of_lt within.2 (by decide))
          rw [same] at letter
          have most : c.val ≤ 'z'.val := of_decide_eq_true (Bool.and_eq_true_iff.1 letter).2
          rw [UInt32.le_iff_toNat_le] at most
          exact absurd (Nat.lt_of_le_of_lt most (by decide)) ascii

/-- Marks that separate the parts of a line or stand around them. -/
def marks : Text := ['.', ':', ';', '"', '\'', '(', ')', '[', ']']

/-- A letter of a keyword is part of a word, and neither a blank nor a mark. -/
theorem plain_of_isLetter {c : Char} (letter : isLetter c = true) :
    isWord c = true ∧ isBlank c = false ∧ c ∉ marks := by
  have each : ∀ c ∈ letters, isWord c = true ∧ isBlank c = false ∧ c ∉ marks :=
    forall_mem_of_all (by decide +kernel)
  exact each c (mem_letters letter)

/-- A keyword stands at the beginning when the first characters are variants of its letters. -/
theorem afterKeyword?_eq_some {keyword text rest : Text} :
    afterKeyword? keyword text = some rest ↔
      ∃ word, text = word ++ rest ∧ word.map fold = keyword := by
  induction keyword generalizing text with
  | nil => simp [afterKeyword?, eq_comm]
  | cons letter keyword ih =>
    cases text with
    | nil => simp [afterKeyword?]
    | cons c text =>
      rw [afterKeyword?]
      constructor
      · intro found
        split at found
        · rename_i same
          obtain ⟨word, whole, folded⟩ := ih.1 found
          exact ⟨c :: word, congrArg (c :: ·) whole, by rw [List.map_cons, same, folded]⟩
        · cases found
      · rintro ⟨word, whole, folded⟩
        cases word with
        | nil => cases folded
        | cons first word =>
          rw [List.cons_append, List.cons.injEq] at whole
          rw [List.map_cons, List.cons.injEq] at folded
          rw [whole.1, if_pos folded.1]
          exact ih.2 ⟨word, whole.2, folded.2⟩

/-- The characters of a keyword are letters. -/
theorem isLetter_of_mem {word keyword : Text} (folded : word.map fold = keyword)
    (small : keyword.all Char.isLower = true) {c : Char} (member : c ∈ word) :
    isLetter c = true := by
  subst folded
  exact List.all_eq_true.1 small _ (List.mem_map_of_mem member)

/-! ## Keywords in capitals -/

/-- The small letters that are like no other character, and whose capitals are part of the
capitals of no other character. -/
def ordinaryLetters : Text := "abcdeghjlmnopqrtuvwxyz"

/-- Their capitals. -/
def ordinaryCapitals : Text := ordinaryLetters.map Char.toUpper

/-- The capital of a variant of an ordinary letter is the capital of the letter. -/
theorem capital_of_fold {c : Char} (ordinary : fold c ∈ ordinaryLetters) :
    Case.capital c = [(fold c).toUpper] := by
  have each : ∀ c ∈ letters, fold c ∈ ordinaryLetters → Case.capital c = [(fold c).toUpper] :=
    forall_mem_of_all (by decide)
  have small : ∀ c ∈ ordinaryLetters, c.isLower = true := forall_mem_of_all (by decide)
  exact each c (mem_letters (small _ ordinary)) ordinary

theorem toNat_ofNat (code : Nat) :
    (Char.ofNat code).toNat = code ∨ (Char.ofNat code).toNat = 0 := by
  by_cases valid : code.isValidChar
  · exact .inl (congrArg Char.toNat (dif_pos valid))
  · exact .inr (congrArg Char.toNat (dif_neg valid))

/-- No run beyond ASCII leads to the capital of an ordinary letter. -/
theorem shift_of_beyond {c : Char} (beyond : ¬ c.toNat < 128) :
    Case.Run.shift Case.capitalRuns c ∉ ordinaryCapitals := by
  have codes : ∀ d ∈ ordinaryCapitals, 65 ≤ d.toNat ∧ d.toNat < 128 :=
    forall_mem_of_all (by decide)
  intro ordinary
  have within := codes _ ordinary
  rw [Case.Run.shift] at ordinary within
  cases found : Case.capitalRuns.find? (·.covers c.toNat) with
  | none =>
    rw [found] at within
    exact beyond within.2
  | some run =>
    rw [found] at ordinary within
    -- The run would have to cover the character at its distance from a capital.
    have elsewhere : ∀ run ∈ Case.capitalRuns, ∀ code ∈ ordinaryCapitals.map Char.toNat,
        run.covers ((code : Int) - run.distance).toNat = false := by decide +kernel
    have missed := elsewhere run (List.mem_of_find?_eq_some found) _ (List.mem_map_of_mem ordinary)
    dsimp only at missed within
    generalize reached : ((c.toNat : Int) + run.distance).toNat = code at missed within
    rcases toNat_ofNat code with same | invalid
    · have back : ((code : Int) - run.distance).toNat = c.toNat := by omega
      rw [same, back, List.find?_some found] at missed
      cases missed
    · omega

/-- No character beyond ASCII has ordinary letters for its capitals. -/
theorem ascii_of_capital {c : Char}
    (ordinary : ∀ d ∈ Case.capital c, d ∈ ordinaryCapitals) : c.toNat < 128 := by
  by_contra beyond
  rw [Case.capital, if_neg beyond] at ordinary
  cases found : Case.capitalExpansions.lookup c.toNat with
  | some codes =>
    rw [found] at ordinary
    have foreign : ∀ entry ∈ Case.capitalExpansions, ∃ code ∈ entry.2,
        Char.ofNat code ∉ ordinaryCapitals := by decide
    obtain ⟨before, behind, table, -⟩ := List.lookup_eq_some_iff.1 found
    have listed : (c.toNat, codes) ∈ Case.capitalExpansions := by
      rw [table]
      exact List.mem_append_right before List.mem_cons_self
    obtain ⟨code, member, other⟩ := foreign _ listed
    exact other (ordinary _ (List.mem_map_of_mem member))
  | none =>
    rw [found] at ordinary
    exact shift_of_beyond beyond (ordinary _ List.mem_cons_self)

/-- A character whose capitals are ordinary letters is such a letter, in either case. -/
theorem fold_of_capital {c : Char}
    (ordinary : ∀ d ∈ Case.capital c, d ∈ ordinaryCapitals) :
    Case.capital c = [(fold c).toUpper] ∧ fold c ∈ ordinaryLetters := by
  have ascii := ascii_of_capital ordinary
  have each : ∀ code < 128,
      (Case.capital (Char.ofNat code)).all (fun d => decide (d ∈ ordinaryCapitals)) = true →
      Case.capital (Char.ofNat code) = [(fold (Char.ofNat code)).toUpper] ∧
        fold (Char.ofNat code) ∈ ordinaryLetters := by decide +kernel
  have here := each c.toNat ascii
  rw [Char.ofNat_toNat] at here
  exact here (List.all_eq_true.2 fun d member => decide_eq_true (ordinary d member))

/-- A word is a keyword of ordinary letters exactly when it is that keyword in capitals. -/
theorem upper_eq_iff {keyword : Text} (ordinary : ∀ c ∈ keyword, c ∈ ordinaryLetters)
    (word : Text) : upper word = keyword.map Char.toUpper ↔ word.map fold = keyword := by
  induction word generalizing keyword with
  | nil =>
    cases keyword with
    | nil => simp [upper]
    | cons letter keyword => simp [upper]
  | cons c word ih =>
    rw [upper, List.flatMap_cons, ← upper, List.map_cons]
    constructor
    · intro same
      have capitals : ∀ d ∈ Case.capital c, d ∈ ordinaryCapitals := by
        intro d member
        have listed : d ∈ keyword.map Char.toUpper := same ▸ List.mem_append_left _ member
        obtain ⟨letter, among, rfl⟩ := List.mem_map.1 listed
        exact List.mem_map_of_mem (ordinary letter among)
      obtain ⟨capital, folded⟩ := fold_of_capital capitals
      cases keyword with
      | nil =>
        rw [capital] at same
        cases same
      | cons letter keyword =>
        rw [capital, List.singleton_append, List.map_cons, List.cons.injEq] at same
        have back : ∀ c ∈ ordinaryLetters, c.toUpper.toLower = c := forall_mem_of_all (by decide)
        have first : fold c = letter := by
          rw [← back _ folded, same.1, back letter (ordinary letter List.mem_cons_self)]
        have others := fun d member => ordinary d (List.mem_cons_of_mem letter member)
        rw [first, (ih others).1 same.2]
    · rintro rfl
      have others := fun d member => ordinary d (List.mem_cons_of_mem (fold c) member)
      rw [capital_of_fold (ordinary _ List.mem_cons_self), (ih others).2 rfl]
      rfl

end Sm83Cost.Text
