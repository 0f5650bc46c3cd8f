import Mathlib.Data.List.Forall2
import Mathlib.Data.List.Induction
import Mathlib.Data.List.TakeWhile
import Mathlib.Data.Nat.Digits.Defs
import Mathlib.Tactic.Ring
import Sm83Cost.Numeral

/-!
# Texts of digits

A count may be given as a text, and the text is first asked whether it consists of digits.  That
question is answered in the wide sense, so the answer is yes for ornamental digits too, which
have no decimal value.  A text of digits is therefore read exactly if it is a decimal numeral:
decimal digits of any script, at least one and not more than a numeral may have
(`ofDigitText_eq_ok`), and `ofDigitText_eq_error` says what becomes of the others.
-/

namespace Sm83Cost.Numeral

set_option autoImplicit false

open Text (decimalDigit? isDecimal)

/-- Digits that are read from the front are the digits of a number from the back. -/
theorem ofDigits_eq (base : Nat) (digits : List Nat) :
    ofDigits base digits = Nat.ofDigits base digits.reverse := by
  induction digits using List.reverseRecOn with
  | nil => rfl
  | append_singleton digits last ih =>
    rw [List.reverse_append, List.reverse_singleton, List.singleton_append, Nat.ofDigits_cons,
      ← ih, ofDigits, List.foldl_append, ofDigits, List.foldl_cons, List.foldl_nil]
    ring

/-- The text is a decimal numeral of the number, in digits of any script. -/
def IsDecimalOf (text : Text) (number : Nat) : Prop :=
  text ≠ [] ∧ text.length ≤ decimalLimit ∧
    ∃ values, List.Forall₂ (fun c value => decimalDigit? c = some value) text values ∧
      Nat.ofDigits 10 values.reverse = number

/-- The values of a text whose characters are all decimal digits. -/
theorem forall₂_decimalDigit? {text : Text} {values : List Nat} :
    List.Forall₂ (fun c value => decimalDigit? c = some value) text values ↔
      (∀ c ∈ text, isDecimal c = true) ∧ text.filterMap decimalDigit? = values := by
  induction text generalizing values with
  | nil => cases values <;> simp
  | cons c rest ih =>
    rw [List.forall₂_cons_left_iff, List.forall_mem_cons, List.filterMap_cons, isDecimal]
    cases digit : decimalDigit? c with
    | none => simp
    | some value =>
      simp only [Option.some.injEq, ih, Option.isSome_some, true_and]
      constructor
      · rintro ⟨_, others, rfl, ⟨all, rfl⟩, rfl⟩
        exact ⟨all, rfl⟩
      · rintro ⟨all, rfl⟩
        exact ⟨value, _, rfl, ⟨all, rfl⟩, rfl⟩

theorem length_filterMap_decimalDigit? (text : Text) (all : ∀ c ∈ text, isDecimal c = true) :
    (text.filterMap decimalDigit?).length = text.length :=
  (forall₂_decimalDigit?.2 ⟨all, rfl⟩).length_eq.symm

/-- What becomes of a text: digits up to the first that is not decimal are counted, and then all
have to be decimal. -/
theorem ofDigitText_eq {text : Text} (some : text ≠ []) :
    ofDigitText text =
      if decimalLimit < (text.takeWhile isDecimal).length then
        .error (.tooManyDigits (text.takeWhile isDecimal).length)
      else if text.all isDecimal then .ok (ofDigits 10 (text.filterMap decimalDigit?))
      else .error (.malformed text) := by
  have count := length_filterMap_decimalDigit? (text.takeWhile isDecimal)
    fun _ => List.mem_takeWhile_imp
  simp only [ofDigitText, ofDecimal, count]
  split
  · rfl
  · by_cases all : text.all isDecimal = true
    · have whole : text.takeWhile isDecimal = text :=
        List.takeWhile_eq_self_iff.2 (List.all_eq_true.1 all)
      have full : text.isEmpty = false := by simpa using some
      simp only [whole, all, full, Nat.lt_irrefl, decide_false, Bool.or_self, if_true]
      rfl
    · have short : (text.takeWhile isDecimal).length < text.length := by
        refine lt_of_le_of_ne (List.takeWhile_prefix isDecimal).length_le fun same => all ?_
        have whole := (List.takeWhile_prefix isDecimal).eq_of_length same
        exact List.all_eq_true.2 (List.takeWhile_eq_self_iff.1 whole)
      simp only [short, decide_true, Bool.or_true, if_true, all]
      rfl

/-- A text that is not read begins with too many decimal digits, or has a character that is no
decimal digit. -/
theorem ofDigitText_eq_error {text : Text} (some : text ≠ []) {cause : Error}
    (fails : ofDigitText text = .error cause) :
    (decimalLimit < (text.takeWhile isDecimal).length ∧
        cause = .tooManyDigits (text.takeWhile isDecimal).length) ∨
      (text.takeWhile isDecimal).length ≤ decimalLimit ∧ (∃ c ∈ text, isDecimal c = false) ∧
        cause = .malformed text := by
  rw [ofDigitText_eq some] at fails
  by_cases long : decimalLimit < (text.takeWhile isDecimal).length
  · rw [if_pos long] at fails
    exact .inl ⟨long, (Except.error.inj fails).symm⟩
  · rw [if_neg long] at fails
    by_cases all : text.all isDecimal = true
    · rw [if_pos all] at fails
      cases fails
    · rw [if_neg all] at fails
      exact .inr ⟨Nat.le_of_not_lt long, by simpa using all, (Except.error.inj fails).symm⟩

/-- A text of digits is read exactly if it is a decimal numeral. -/
theorem ofDigitText_eq_ok {text : Text} (some : text ≠ []) {number : Nat} :
    ofDigitText text = .ok number ↔ IsDecimalOf text number := by
  have values : (∃ values,
      List.Forall₂ (fun c value => decimalDigit? c = Option.some value) text values ∧
        Nat.ofDigits 10 values.reverse = number) ↔
      (∀ c ∈ text, isDecimal c = true) ∧
        ofDigits 10 (text.filterMap decimalDigit?) = number := by
    simp only [forall₂_decimalDigit?, ofDigits_eq]
    constructor
    · rintro ⟨_, ⟨all, rfl⟩, same⟩
      exact ⟨all, same⟩
    · rintro ⟨all, same⟩
      exact ⟨_, ⟨all, rfl⟩, same⟩
  rw [ofDigitText_eq some, IsDecimalOf, values]
  by_cases all : text.all isDecimal = true
  · have each := List.all_eq_true.1 all
    rw [List.takeWhile_eq_self_iff.2 each, if_pos all]
    split
    · rename_i long
      simp [Nat.not_le.2 long]
    · rename_i short
      simp only [Except.ok.injEq, ne_eq, some, not_false_eq_true, Nat.le_of_not_lt short,
        true_and]
      exact (and_iff_right each).symm
  · have none : ¬ ∀ c ∈ text, isDecimal c = true := fun each => all (List.all_eq_true.2 each)
    rw [if_neg all]
    split <;> simp [none]

end Sm83Cost.Numeral
