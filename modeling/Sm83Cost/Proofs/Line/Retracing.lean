import Mathlib.Data.List.Forall2
import Sm83Cost.Operand
import Sm83Cost.Proofs.Line.Operands
import Sm83Cost.Proofs.Text.Capitals

/-!
# Texts that open and close the same

Whether a text is cut at a comma or at a blank depends on its quotes and brackets,
and on the commas and blanks themselves.  One text retraces another if it opens and
closes the same wherever it stands, and is not cut if the other one is not
(`Retraces`).

A text in capitals retraces the text as it was written.  For commas so does the one
spelling of an operand: blanks are left out, a character is put in the place of one
that is like it (`Alike`), and a bracket in the place of a parenthesis
(`retraces_memoryForm`).
-/

namespace Sm83Cost.Line.Nesting

set_option autoImplicit false

/-- Wherever it stands, the second text opens and closes what the first one does, and is not cut if
the first one is not. -/
structure Retraces (stop : Nesting → Char → Bool) (text other : Text) : Prop where
  nesting : ∀ {nesting : Nesting}, nesting.Proper →
    other.foldl step nesting = text.foldl step nesting
  passes : ∀ {nesting : Nesting}, nesting.Proper → Passes stop nesting text →
    Passes stop nesting other

namespace Retraces

variable {stop : Nesting → Char → Bool} {text other rest others : Text}

theorem refl (text : Text) : Retraces stop text text := ⟨fun _ => rfl, fun _ => id⟩

theorem trans {third : Text} (here : Retraces stop text other)
    (there : Retraces stop other third) : Retraces stop text third where
  nesting := fun proper => (there.nesting proper).trans (here.nesting proper)
  passes := fun proper passes => there.passes proper (here.passes proper passes)

theorem append (here : Retraces stop text other) (there : Retraces stop rest others) :
    Retraces stop (text ++ rest) (other ++ others) := by
  constructor
  · intro nesting proper
    rw [List.foldl_append, List.foldl_append, here.nesting proper,
      there.nesting (proper.foldl_step text)]
  · intro nesting proper passes
    obtain ⟨first, second⟩ := passes_append.1 passes
    rw [passes_append, here.nesting proper]
    exact ⟨here.passes proper first, there.passes (proper.foldl_step text) second⟩

/-- Texts retrace each other if no character of theirs opens or closes anything or is a place for a
cut. -/
theorem of_quiet (before : ∀ c ∈ text, isInert c = true)
    (after : ∀ c ∈ other, isInert c = true ∧ ∀ nesting, stop nesting c = false) :
    Retraces stop text other := by
  constructor
  · intro nesting proper
    rw [foldl_step_of_isInert proper before,
      foldl_step_of_isInert proper fun c member => (after c member).1]
  · intro nesting proper _
    exact passes_of_passed fun c member => (after c member).2

end Retraces

/-! ## Capitals -/

theorem isInert_of_not_mem_separators {c : Char} (other : c ∉ Text.separators) :
    isInert c = true := by
  by_contra marked
  refine other (List.mem_append_right _ ?_)
  simp only [isInert, isQuote, isOpener, isCloser] at marked
  simp only [List.mem_cons, List.not_mem_nil]
  grind

/-- Where only blanks and marks are places for a cut, a text in capitals retraces the text. -/
theorem retraces_upper {stop : Nesting → Char → Bool}
    (ignores : ∀ c, c ∉ Text.separators → ∀ nesting, stop nesting c = false) (text : Text) :
    Retraces stop text (Text.upper text) := by
  induction text with
  | nil => exact .refl []
  | cons c rest ih =>
    have first : Retraces stop [c] (Text.Case.capital c) := by
      by_cases separates : c ∈ Text.separators
      · rw [Text.capital_of_separator separates]
        exact .refl [c]
      · refine .of_quiet ?_ fun d member => ?_
        · intro d here
          rw [List.mem_singleton.1 here]
          exact isInert_of_not_mem_separators separates
        · have other : d ∉ Text.separators := fun separates' =>
            separates (Text.eq_of_capital member separates' ▸ separates')
          exact ⟨isInert_of_not_mem_separators other, ignores d other⟩
    exact first.append ih

theorem atComma_of_ne {c : Char} (other : c ≠ ',') (nesting : Nesting) :
    atComma nesting c = false := by
  rw [atComma, beq_eq_false_iff_ne.2 other, Bool.and_false]

theorem atComma_of_not_mem_separators (c : Char) (other : c ∉ Text.separators)
    (nesting : Nesting) : atComma nesting c = false := by
  refine atComma_of_ne ?_ nesting
  rintro rfl
  exact other (by decide)

theorem atBlank_of_not_mem_separators (c : Char) (other : c ∉ Text.separators)
    (nesting : Nesting) : atBlank nesting c = false := by
  have full : Text.isBlank c = false := Bool.eq_false_iff.2 fun blank =>
    other (List.mem_append_left _ (Text.mem_blanks blank))
  rw [atBlank, full, Bool.and_false]

/-! ## One spelling -/

theorem retraces_filter (text : Text) :
    Retraces atComma text (text.filter (!Text.isBlank ·)) := by
  induction text with
  | nil => exact .refl []
  | cons c rest ih =>
    cases blank : Text.isBlank c with
    | true =>
      rw [List.filter_cons_of_neg (by simp [blank])]
      have gone : Retraces atComma [c] [] := by
        refine .of_quiet (fun d here => ?_) nofun
        rw [List.mem_singleton.1 here]
        exact isInert_of_isBlank blank
      exact gone.append ih
    | false =>
      rw [List.filter_cons_of_pos (by simp [blank])]
      exact (Retraces.refl [c]).append ih

/-- To a walk that is cut at commas the two characters are the same: they are equal, both open, both
close, or neither does anything. -/
def Alike (c d : Char) : Prop :=
  c = d ∨ isOpener c = true ∧ isOpener d = true ∨ isCloser c = true ∧ isCloser d = true ∨
    (isInert c = true ∧ c ≠ ',') ∧ isInert d = true ∧ d ≠ ','

instance : DecidableRel Alike := fun _ _ => inferInstanceAs (Decidable (_ ∨ _))

theorem step_of_isOpener {nesting : Nesting} (proper : nesting.Proper) {c : Char}
    (opener : isOpener c = true) :
    nesting.step c = if nesting.quote.isSome then nesting
      else { nesting with depth := nesting.depth + 1 } := by
  have plain : isQuote c = false := by
    rw [isOpener, Bool.or_eq_true, beq_iff_eq, beq_iff_eq] at opener
    rcases opener with rfl | rfl <;> decide
  unfold step
  cases opened : nesting.quote with
  | some mark =>
    have differs : c ≠ mark := by
      rintro rfl
      exact Bool.false_ne_true (plain.symm.trans (proper c opened))
    simp [differs]
  | none => simp [plain, opener]

theorem step_of_isCloser {nesting : Nesting} (proper : nesting.Proper) {c : Char}
    (closer : isCloser c = true) :
    nesting.step c = if nesting.quote.isSome then nesting
      else { nesting with depth := nesting.depth - 1 } := by
  have plain : isQuote c = false ∧ isOpener c = false := by
    rw [isCloser, Bool.or_eq_true, beq_iff_eq, beq_iff_eq] at closer
    rcases closer with rfl | rfl <;> decide
  unfold step
  cases opened : nesting.quote with
  | some mark =>
    have differs : c ≠ mark := by
      rintro rfl
      exact Bool.false_ne_true (plain.1.symm.trans (proper c opened))
    simp [differs]
  | none => simp [plain, closer]

namespace Alike

variable {c d : Char} {nesting : Nesting}

theorem step_eq (alike : Alike c d) (proper : nesting.Proper) :
    nesting.step d = nesting.step c := by
  rcases alike with rfl | ⟨opener, opener'⟩ | ⟨closer, closer'⟩ | ⟨⟨inert, -⟩, inert', -⟩
  · rfl
  · rw [step_of_isOpener proper opener, step_of_isOpener proper opener']
  · rw [step_of_isCloser proper closer, step_of_isCloser proper closer']
  · rw [step_of_isInert proper inert, step_of_isInert proper inert']

theorem atComma_eq (alike : Alike c d) : atComma nesting d = atComma nesting c := by
  have opener : ∀ {c : Char}, isOpener c = true → c ≠ ',' := by
    rintro c opener rfl
    cases opener
  have closer : ∀ {c : Char}, isCloser c = true → c ≠ ',' := by
    rintro c closer rfl
    cases closer
  rcases alike with rfl | ⟨here, there⟩ | ⟨here, there⟩ | ⟨⟨-, here⟩, -, there⟩
  · rfl
  · rw [atComma_of_ne (opener here), atComma_of_ne (opener there)]
  · rw [atComma_of_ne (closer here), atComma_of_ne (closer there)]
  · rw [atComma_of_ne here, atComma_of_ne there]

end Alike

/-- A text retraces another if each character is like the one at its place. -/
theorem retraces_of_forall₂ {text other : Text} (alike : List.Forall₂ Alike text other) :
    Retraces atComma text other := by
  induction alike with
  | nil => exact .refl []
  | @cons c d rest others first _ ih =>
    have here : Retraces atComma [c] [d] := by
      refine ⟨fun proper => first.step_eq proper, fun _ passes => ?_⟩
      rw [passes_cons] at passes ⊢
      exact ⟨first.atComma_eq.trans passes.1, passes_nil⟩
    exact here.append ih

/-- Replacing spellings by a text that is like each of them leaves a text like the first one. -/
theorem forall₂_replaceFrom {spellings : List Text} {new : Text}
    (each : ∀ spelling ∈ spellings, List.Forall₂ Alike spelling new) (skip : Nat) (text : Text) :
    List.Forall₂ Alike (text.drop skip)
      (Text.replaceFrom (fun rest => (spellings.find? (·.isPrefixOf rest)).map List.length) new
        skip text) := by
  induction text generalizing skip with
  | nil =>
    rw [List.drop_nil, Text.replaceFrom]
    exact .nil
  | cons c rest ih =>
    cases skip with
    | succ skip => exact ih skip
    | zero =>
      rw [Text.replaceFrom, List.drop_zero]
      split
      · next more found =>
        obtain ⟨spelling, first, length⟩ := Option.map_eq_some_iff.1 found
        obtain ⟨tail, whole⟩ := List.isPrefixOf_iff_prefix.1 (List.find?_some first :)
        have behind : (c :: rest).drop (more + 1) = tail := by
          rw [← whole, ← Nat.succ_eq_add_one, ← length, List.drop_left]
        rw [List.drop_succ_cons] at behind
        rw [← whole, ← behind]
        exact List.rel_append (each spelling (List.mem_of_find?_eq_some first)) (ih more)
      · exact .cons (.inl rfl) (ih 0)

theorem forall₂_bracketed (inside : Bool) (text : Text) :
    List.Forall₂ Alike text (Operand.bracketed inside text) := by
  induction text generalizing inside with
  | nil =>
    rw [Operand.bracketed]
    exact .nil
  | cons c rest ih =>
    cases inside with
    | true =>
      rw [Operand.bracketed]
      split
      · next close =>
        subst close
        exact .cons (by decide) (ih false)
      · exact .cons (.inl rfl) (ih true)
    | false =>
      rw [Operand.bracketed]
      split
      · next opens =>
        rw [Bool.and_eq_true, decide_eq_true_eq] at opens
        obtain ⟨rfl, -⟩ := opens
        exact .cons (by decide) (ih true)
      · exact .cons (.inl rfl) (ih false)

/-- The three steps towards one spelling keep each character or put one that is like it. -/
theorem exists_unified (text : Text) :
    ∃ increments decrements, List.Forall₂ Alike text increments ∧
      List.Forall₂ Alike increments decrements ∧
      List.Forall₂ Alike decrements (Operand.unified text) :=
  ⟨_, _, forall₂_replaceFrom (by decide) 0 text, forall₂_replaceFrom (by decide) 0 _,
    forall₂_bracketed false _⟩

/-- In its one spelling an operand retraces the operand as it was written. -/
theorem retraces_memoryForm (text : Text) :
    Retraces atComma text (Operand.memoryForm text) := by
  have capitals := (retraces_upper atComma_of_not_mem_separators text).trans (retraces_filter _)
  obtain ⟨increments, decrements, first, second, third⟩ :=
    exists_unified ((Text.upper text).filter (!Text.isBlank ·))
  have stepped := (retraces_of_forall₂ first).trans (retraces_of_forall₂ second)
  exact capitals.trans (stepped.trans (retraces_of_forall₂ third))

/-- The one spelling of a text that does not begin with a blank is not empty. -/
theorem memoryForm_ne_nil {text : Text} (some : text ≠ [])
    (begins : text.head?.any Text.isBlank = false) : Operand.memoryForm text ≠ [] := by
  obtain ⟨c, rest, rfl⟩ := List.exists_cons_of_ne_nil some
  obtain ⟨d, more, capitals⟩ := List.exists_cons_of_ne_nil (Text.capital_ne_nil c)
  have here : d ∈ Text.Case.capital c := capitals ▸ List.mem_cons_self
  have full : Text.isBlank d = false := by
    rw [Bool.eq_false_iff]
    intro blank
    rw [← Text.eq_of_capital here (List.mem_append_left _ (Text.mem_blanks blank))] at begins
    exact Bool.false_ne_true (begins.symm.trans blank)
  have inside : d ∈ (Text.upper (c :: rest)).filter (!Text.isBlank ·) :=
    List.mem_filter.2 ⟨List.mem_flatMap.2 ⟨c, List.mem_cons_self, here⟩, by rw [full]; rfl⟩
  obtain ⟨increments, decrements, first, second, third⟩ :=
    exists_unified ((Text.upper (c :: rest)).filter (!Text.isBlank ·))
  have length := first.length_eq.trans (second.length_eq.trans third.length_eq)
  intro none
  rw [show Operand.unified _ = [] from none] at length
  exact List.ne_nil_of_mem inside (List.eq_nil_of_length_eq_zero length)

end Nesting

end Sm83Cost.Line
