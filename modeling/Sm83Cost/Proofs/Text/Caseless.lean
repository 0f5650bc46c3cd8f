import Mathlib.Tactic.IntervalCases
import Sm83Cost.Numeral
import Sm83Cost.Proofs.Text.Trim
import Sm83Cost.Text.Case
import Sm83Cost.Text.Caseless
import Sm83Cost.Text.Word

/-!
# Capital and small letters

Two texts that differ only in the case of ASCII letters are the same once these
letters are put in capitals.  So a function is blind to case when it does the
same to a text and to that text in capitals, and a function that cuts a text is
blind to case when it cuts both at the same place.

For a property of characters this is a question of the 26 small letters
(`caseBlind_of_letters`).  Cutting by a property that is blind to case then
commutes with putting a text in capitals.
-/

namespace Sm83Cost.Text

set_option autoImplicit false

/-- The text with its ASCII letters in capitals. -/
def asciiUpper (text : Text) : Text :=
  text.map Char.toUpper

/-- The small ASCII letters. -/
def smallLetters : Text := "abcdefghijklmnopqrstuvwxyz"

/-! ## Characters -/

theorem mem_smallLetters {c : Char} (least : 97 ≤ c.toNat) (most : c.toNat ≤ 122) :
    c ∈ smallLetters := by
  rw [← Char.ofNat_toNat c]
  generalize c.toNat = code at least most ⊢
  interval_cases code <;> decide

/-- What holds of a character and itself, and of each small letter and its capital, holds of every
character and its capital. -/
theorem toUpper_cases {motive : Char → Char → Prop} (other : ∀ c, motive c c)
    (letter : ∀ c ∈ smallLetters, motive c c.toUpper) (c : Char) : motive c c.toUpper := by
  by_cases small : 97 ≤ c.toNat ∧ c.toNat ≤ 122
  · exact letter c (mem_smallLetters small.1 small.2)
  · have same : c.toUpper = c := by
      refine dif_neg ?_
      intro within
      simp only [UInt32.le_iff_toNat_le] at within
      exact small within
    rw [same]
    exact other c

/-- The property does not tell a letter from its capital. -/
def CaseBlind {α : Type} (p : Char → α) : Prop :=
  ∀ c, p c.toUpper = p c

theorem caseBlind_of_letters {α : Type} [DecidableEq α] {p : Char → α}
    (letters : smallLetters.all (fun c => decide (p c.toUpper = p c)) = true) : CaseBlind p :=
  toUpper_cases (motive := fun small capital => p capital = p small) (fun _ => rfl)
    (forall_mem_of_all letters)

theorem caseBlind_isBlank : CaseBlind isBlank := caseBlind_of_letters (by decide)

theorem caseBlind_isWord : CaseBlind isWord := caseBlind_of_letters (by decide)

theorem caseBlind_fold : CaseBlind fold := caseBlind_of_letters (by decide)

theorem caseBlind_capital : CaseBlind Case.capital := caseBlind_of_letters (by decide)

theorem caseBlind_isDecimal : CaseBlind isDecimal := caseBlind_of_letters (by decide)

/-- A character that is no letter is its own capital, and that of no other. -/
theorem toUpper_eq_iff {mark : Char} (plain : mark.isAlpha = false) (c : Char) :
    c.toUpper = mark ↔ c = mark := by
  refine toUpper_cases (motive := fun small capital => capital = mark ↔ small = mark)
    (fun _ => Iff.rfl) (fun small member => ?_) c
  have letters : ∀ c ∈ smallLetters, c.isAlpha = true ∧ c.toUpper.isAlpha = true :=
    forall_mem_of_all (by decide)
  obtain ⟨here, there⟩ := letters small member
  constructor
  · rintro rfl
    rw [plain] at there
    cases there
  · rintro rfl
    rw [plain] at here
    cases here

theorem caseBlind_beq {mark : Char} (plain : mark.isAlpha = false) : CaseBlind (· == mark) := by
  intro c
  rw [Bool.eq_iff_iff, beq_iff_eq, beq_iff_eq, toUpper_eq_iff plain]

/-! ## Cutting -/

section Cutting

variable {p : Char → Bool} (blind : CaseBlind p)
include blind

theorem comp_toUpper : p ∘ Char.toUpper = p := funext blind

theorem takeWhile_asciiUpper (text : Text) :
    (asciiUpper text).takeWhile p = asciiUpper (text.takeWhile p) := by
  rw [asciiUpper, List.takeWhile_map, comp_toUpper blind]
  rfl

theorem dropWhile_asciiUpper (text : Text) :
    (asciiUpper text).dropWhile p = asciiUpper (text.dropWhile p) := by
  rw [asciiUpper, List.dropWhile_map, comp_toUpper blind]
  rfl

theorem dropAround_asciiUpper (text : Text) :
    dropAround p (asciiUpper text) = asciiUpper (dropAround p text) := by
  rw [dropAround, dropAround, dropWhile_asciiUpper blind, dropEndWhile, dropEndWhile, asciiUpper,
    ← List.map_reverse, ← asciiUpper, dropWhile_asciiUpper blind, asciiUpper, asciiUpper,
    List.map_reverse]

theorem all_asciiUpper (text : Text) : (asciiUpper text).all p = text.all p := by
  rw [asciiUpper, List.all_map, comp_toUpper blind]

theorem any_head?_asciiUpper (text : Text) :
    (asciiUpper text).head?.any p = text.head?.any p := by
  cases text with
  | nil => rfl
  | cons c rest => exact blind c

end Cutting

@[simp]
theorem trim_asciiUpper (text : Text) : trim (asciiUpper text) = asciiUpper (trim text) :=
  dropAround_asciiUpper caseBlind_isBlank text

theorem isTrimmed_asciiUpper {text : Text} (trimmed : IsTrimmed text) :
    IsTrimmed (asciiUpper text) := by
  have ends := isTrimmed_trim (asciiUpper text)
  rwa [trim_asciiUpper, trim_of_isTrimmed trimmed] at ends

@[simp]
theorem isEmpty_asciiUpper (text : Text) : (asciiUpper text).isEmpty = text.isEmpty := by
  simp [asciiUpper]

@[simp]
theorem length_asciiUpper (text : Text) : (asciiUpper text).length = text.length :=
  List.length_map ..

/-- The full capitals of a text are those of the text with its ASCII letters in capitals. -/
@[simp]
theorem upper_asciiUpper (text : Text) : upper (asciiUpper text) = upper text := by
  rw [upper, upper, asciiUpper, List.flatMap_map]
  congr 1
  exact funext caseBlind_capital

/-- In ASCII the capitals of a text are those of its letters. -/
theorem upper_of_ascii {word : Text} (ascii : ∀ c ∈ word, c.toNat < 128) :
    upper word = asciiUpper word := by
  have each : ∀ code < 128,
      Case.capital (Char.ofNat code) = [(Char.ofNat code).toUpper] := by decide +kernel
  induction word with
  | nil => rfl
  | cons c rest ih =>
    have first := each c.toNat (ascii c List.mem_cons_self)
    rw [Char.ofNat_toNat] at first
    have others := ih fun d member => ascii d (List.mem_cons_of_mem c member)
    rw [upper, List.flatMap_cons, first, ← upper, others]
    rfl

/-- Keywords are recognised in any case. -/
theorem afterKeyword?_asciiUpper (keyword text : Text) :
    afterKeyword? keyword (asciiUpper text) = (afterKeyword? keyword text).map asciiUpper := by
  induction keyword generalizing text with
  | nil => rfl
  | cons letter keyword ih =>
    cases text with
    | nil => rfl
    | cons c rest =>
      simp only [asciiUpper, List.map_cons, afterKeyword?, caseBlind_fold c]
      split
      · exact ih rest
      · rfl

end Sm83Cost.Text
