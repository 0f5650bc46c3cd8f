import Sm83Cost.Cost.Session

/-!
# Visiting the lines of a document

A document is visited line by line, and the only thing carried from one line to
the next is whether a macro definition is open.  What a visit can do is said
once (`visitLine_eq_ok`), and a complete visit of a document is a sequence of
such steps (`exists_trace`).

From the steps it follows which lines belong to a macro definition: those for
which some line up to them begins a definition, and no line strictly between the
two ends one (`trace_inside_iff`).  A line that begins a definition belongs to
it, and so does the line that ends it.
-/

namespace Sm83Cost

set_option autoImplicit false

namespace LineCost

/-- The cost of a line without its place in a count. -/
def uncounted (cost : LineCost) : LineCost :=
  { cost with counting := false, running := {} }

end LineCost

namespace Session

/-! ## Which lines belong to a macro definition -/

/-- The line with this number holds the given directive. -/
def HoldsAt (session : Session) (directive : Text) (lines : List Text) (number : Nat) : Prop :=
  ∃ text line, lines[number]? = some text ∧
    session.scanner.parseLine text number = .ok line ∧ holds directive line = true

/-- The line with this number belongs to a macro definition: one begins at it or before it, and
none ends strictly between. -/
def InDefinition (session : Session) (lines : List Text) (number : Nat) : Prop :=
  ∃ opening ≤ number, session.HoldsAt "MACRO" lines opening ∧
    ∀ between, opening < between → between < number → ¬ session.HoldsAt "ENDM" lines between

/-- No line both begins and ends a definition. -/
theorem holds_macro_not_endm {line : Line} (begins : holds "MACRO" line = true) :
    holds "ENDM" line = false := by
  cases operation : line.operation with
  | none => simp [holds, operation]
  | some found =>
    simp only [holds, operation, Option.any_some, Bool.and_eq_true, beq_iff_eq] at begins ⊢
    have differs : ("MACRO".toList == "ENDM".toList) = false := by decide
    rw [begins.2, differs, Bool.and_false]

theorem holdsAt_iff {session : Session} {lines : List Text} {number : Nat} {text : Text}
    {line : Line} (found : lines[number]? = some text)
    (parsed : session.scanner.parseLine text number = .ok line) {directive : Text} :
    session.HoldsAt directive lines number ↔ holds directive line = true := by
  constructor
  · rintro ⟨other, parsedOther, foundOther, parses, held⟩
    rw [found] at foundOther
    cases foundOther
    rw [parsed] at parses
    cases parses
    exact held
  · exact fun held => ⟨text, line, found, parsed, held⟩

theorem HoldsAt.not_endm {session : Session} {lines : List Text} {number : Nat}
    (begins : session.HoldsAt "MACRO" lines number) :
    ¬ session.HoldsAt "ENDM" lines number := by
  obtain ⟨text, line, found, parsed, held⟩ := begins
  rw [holdsAt_iff found parsed, holds_macro_not_endm held]
  exact Bool.false_ne_true

/-- The first line belongs to a definition only if it begins one. -/
theorem inDefinition_zero {session : Session} {lines : List Text} :
    session.InDefinition lines 0 ↔ session.HoldsAt "MACRO" lines 0 := by
  constructor
  · rintro ⟨opening, early, begins, -⟩
    rwa [Nat.le_zero.1 early] at begins
  · exact fun begins => ⟨0, Nat.le_refl 0, begins, fun _ after before => by omega⟩

/-- A later line belongs to a definition if the line before it does and does not end it, or if
it begins one itself. -/
theorem inDefinition_succ {session : Session} {lines : List Text} {number : Nat} :
    session.InDefinition lines (number + 1) ↔
      (session.InDefinition lines number ∧ ¬ session.HoldsAt "ENDM" lines number) ∨
        session.HoldsAt "MACRO" lines (number + 1) := by
  constructor
  · rintro ⟨opening, early, begins, unbroken⟩
    rcases Nat.lt_or_eq_of_le early with earlier | rfl
    · refine .inl ⟨⟨opening, by omega, begins, fun between after before =>
        unbroken between after (by omega)⟩, ?_⟩
      rcases Nat.lt_succ_iff_lt_or_eq.1 earlier with before | rfl
      · exact unbroken number before (Nat.lt_succ_self number)
      · exact begins.not_endm
    · exact .inr begins
  · rintro (⟨⟨opening, early, begins, unbroken⟩, goesOn⟩ | begins)
    · refine ⟨opening, by omega, begins, fun between after before => ?_⟩
      rcases Nat.lt_succ_iff_lt_or_eq.1 before with earlier | rfl
      · exact unbroken between after earlier
      · exact goesOn
    · exact ⟨number + 1, Nat.le_refl _, begins, fun _ after before => by omega⟩

/-! ## One visit -/

/-- What a visit of a line can do.  The line is taken apart; inside a definition, or where one
begins, it is part of it, and elsewhere it is given its cost.  A definition is open behind the
line when one was open before or begins, and the line does not end it. -/
theorem visitLine_eq_ok {session : Session} {inside after : Bool} {number : Nat} {text : Text}
    {visit : Visit} (visited : session.visitLine inside number text = .ok (visit, after)) :
    ∃ line, session.scanner.parseLine text number = .ok line ∧
      after = ((inside || holds "MACRO" line) && !holds "ENDM" line) ∧
      if inside || holds "MACRO" line then visit = .definition line
      else ∃ cost, session.resolve line = .ok cost ∧ visit = .resolved cost := by
  rw [visitLine] at visited
  obtain ⟨line, parsed, visited⟩ := Fault.bind_eq_ok.1 visited
  refine ⟨line, Fault.ofNumeral_eq_ok.1 parsed, ?_⟩
  cases part : inside || holds "MACRO" line with
  | true =>
    simp only [part, if_true] at visited ⊢
    cases visited
    exact ⟨rfl, rfl⟩
  | false =>
    simp only [part, Bool.false_eq_true, if_false] at visited ⊢
    obtain ⟨cost, resolved, visited⟩ := Fault.bind_eq_ok.1 visited
    cases visited
    exact ⟨rfl, cost, resolved, rfl⟩

/-! ## All visits -/

/-- A complete visit is a sequence of steps: `inside` tells at each line whether a definition is
open before it. -/
theorem exists_trace (session : Session) (start : Bool) (number : Nat) (lines : List Text)
    (complete : (session.visitLines start number lines).2 = none) :
    ∃ inside : Nat → Bool, inside 0 = start ∧
      ∀ index text, lines[index]? = some text →
        ∃ visit, (session.visitLines start number lines).1[index]? = some visit ∧
          session.visitLine (inside index) (number + index) text =
            .ok (visit, inside (index + 1)) := by
  induction lines generalizing start number with
  | nil => exact ⟨fun _ => start, rfl, by simp⟩
  | cons first rest ih =>
    rw [visitLines] at complete ⊢
    cases visited : session.visitLine start number first with
    | error fault => simp [visited] at complete
    | ok result =>
      obtain ⟨visit, after⟩ := result
      simp only [visited] at complete ⊢
      obtain ⟨inside, begins, steps⟩ := ih after (number + 1) complete
      -- The trace of the rest, with the state before the first line put in front.
      refine ⟨fun index => Nat.rec start (fun before _ => inside before) index, rfl, ?_⟩
      intro index text found
      cases index with
      | zero =>
        simp only [List.getElem?_cons_zero, Option.some.injEq] at found
        subst found
        refine ⟨visit, rfl, ?_⟩
        show session.visitLine start number first = .ok (visit, inside 0)
        rw [visited, begins]
      | succ index =>
        obtain ⟨other, there, step⟩ := steps index text (by simpa using found)
        exact ⟨other, by simpa using there, by rwa [Nat.add_assoc, Nat.add_comm 1] at step⟩

/-- Along the steps of a visit that starts outside every definition, a definition is open before
a line, or begins on it, exactly when the line belongs to one. -/
theorem trace_inside_iff {session : Session} {lines : List Text} {inside : Nat → Bool}
    (outside : inside 0 = false)
    (steps : ∀ index text, lines[index]? = some text →
      ∃ visit, session.visitLine (inside index) index text = .ok (visit, inside (index + 1)))
    {number : Nat} (present : number < lines.length) :
    (inside number = true ∨ session.HoldsAt "MACRO" lines number) ↔
      session.InDefinition lines number := by
  induction number with
  | zero => simp [outside, inDefinition_zero]
  | succ number ih =>
    have here : number < lines.length := by omega
    have found := List.getElem?_eq_getElem here
    obtain ⟨visit, step⟩ := steps number lines[number] found
    obtain ⟨line, parsed, carried, -⟩ := visitLine_eq_ok step
    have opened : inside (number + 1) = true ↔
        session.InDefinition lines number ∧ ¬ session.HoldsAt "ENDM" lines number := by
      rw [carried, Bool.and_eq_true, Bool.or_eq_true, ← holdsAt_iff found parsed, ih here,
        holdsAt_iff found parsed, Bool.not_eq_true', Bool.not_eq_true]
    rw [opened, inDefinition_succ]

end Session

end Sm83Cost
