import Sm83Cost.Proofs.Line.Caseless
import Sm83Cost.Proofs.Line.Code

/-!
# Operands one after the other

A text that is walked over without a cut may be followed by another one, and the
walk goes on from what is open then (`passes_append`).  So a comma where nothing is
open makes two lists of operands out of one (`splitOperands_append_comma`).

Operands that were split off can be put together again.  Each of them is one
operand by itself, and nothing is open at its end unless it is the last one
(`operandList_splitOperands`).  Joined by commas they are split into what they were,
with any blanks behind the commas (`splitOperands_joined_spaced`), and quotes,
brackets and comments are not affected by the new spacing (`respaced_joined`).

Both together say what splitting is (`splitOperands_splits_at_commas`).  Only the
text before a comma has to be closed: a bracket or a quote that is still open would
keep the comma for itself, while one that is left open behind it does no harm.
-/

namespace Sm83Cost.Line

set_option autoImplicit false

open Text (asciiUpper)

namespace Nesting

/-! ## Characters that open and close nothing -/

/-- Neither a quote nor a bracket. -/
def isInert (c : Char) : Bool :=
  !isQuote c && !isOpener c && !isCloser c

theorem isInert_of_isBlank {c : Char} (blank : Text.isBlank c = true) : isInert c = true := by
  have each : ∀ c ∈ Text.blanks, isInert c = true := Text.forall_mem_of_all (by decide +kernel)
  exact each c (Text.mem_blanks blank)

theorem isInert_of_isWord {c : Char} (word : Text.isWord c = true) : isInert c = true := by
  by_contra marked
  have mark : c ∈ ['"', '\'', '(', '[', ')', ']'] := by
    simp only [isInert, isQuote, isOpener, isCloser] at marked
    simp only [List.mem_cons, List.not_mem_nil]
    grind
  have each : ∀ c ∈ ['"', '\'', '(', '[', ')', ']'], Text.isWord c = false :=
    Text.forall_mem_of_all (by decide +kernel)
  exact Bool.false_ne_true ((each c mark).symm.trans word)

/-- An inert character changes nothing. -/
theorem step_of_isInert {nesting : Nesting} (proper : nesting.Proper) {c : Char}
    (inert : isInert c = true) : nesting.step c = nesting := by
  simp only [isInert, Bool.and_eq_true, Bool.not_eq_true'] at inert
  obtain ⟨⟨quote, opener⟩, closer⟩ := inert
  unfold step
  cases opened : nesting.quote with
  | some mark =>
    have differs : c ≠ mark := by
      rintro rfl
      exact Bool.false_ne_true (quote.symm.trans (proper c opened))
    simp [differs]
  | none => simp [quote, opener, closer]

theorem Proper.foldl_step {nesting : Nesting} (proper : nesting.Proper) (text : Text) :
    (text.foldl Nesting.step nesting).Proper := by
  induction text generalizing nesting with
  | nil => exact proper
  | cons c rest ih => exact ih (proper.step c)

theorem foldl_step_of_isInert {nesting : Nesting} (proper : nesting.Proper) {text : Text}
    (inert : ∀ c ∈ text, isInert c = true) : text.foldl step nesting = nesting := by
  induction text with
  | nil => rfl
  | cons c rest ih =>
    rw [List.foldl_cons, step_of_isInert proper (inert c List.mem_cons_self)]
    exact ih fun d member => inert d (List.mem_cons_of_mem c member)

/-- Blanks at the ends open and close nothing. -/
theorem foldl_step_trim {nesting : Nesting} (proper : nesting.Proper) (text : Text) :
    (Text.trim text).foldl step nesting = text.foldl step nesting := by
  obtain ⟨lead, trail, before, after, whole⟩ := Text.exists_trim text
  have first : lead.foldl step nesting = nesting :=
    foldl_step_of_isInert proper fun c member => isInert_of_isBlank (before c member)
  have last := foldl_step_of_isInert (proper.foldl_step (Text.trim text))
    fun c member => isInert_of_isBlank (after c member)
  conv_rhs => rw [whole, List.foldl_append, List.foldl_append, first, last]

/-- The case of letters does not matter to what is open after a text. -/
theorem foldl_step_asciiUpper {nesting : Nesting} (proper : nesting.Proper) (text : Text) :
    (asciiUpper text).foldl step nesting = text.foldl step nesting := by
  induction text generalizing nesting with
  | nil => rfl
  | cons c rest ih =>
    show (asciiUpper rest).foldl step (nesting.step c.toUpper) = _
    rw [step_toUpper proper]
    exact ih (proper.step c)

theorem eq_start_of_isTop {nesting : Nesting} (top : nesting.isTop = true) : nesting = {} := by
  obtain ⟨quote, depth⟩ := nesting
  simp only [isTop, Bool.and_eq_true, Option.isNone_iff_eq_none, beq_iff_eq] at top
  rw [top.1, top.2]

/-! ## Walks without a cut -/

/-- Before this character a comment begins. -/
def atComment (nesting : Nesting) (c : Char) : Bool := nesting.quote.isNone && c == ';'

/-- Before this character a mnemonic ends. -/
def atBlank (nesting : Nesting) (c : Char) : Bool := nesting.isTop && Text.isBlank c

/-- Before this character an operand ends. -/
def atComma (nesting : Nesting) (c : Char) : Bool := nesting.isTop && c == ','

/-- The text is not cut. -/
def Passes (stop : Nesting → Char → Bool) (nesting : Nesting) (text : Text) : Prop :=
  (breakAt stop nesting text).2 = []

section Walks

variable {stop : Nesting → Char → Bool} {nesting : Nesting}

@[simp]
theorem passes_nil : Passes stop nesting [] := rfl

@[simp]
theorem passes_cons {c : Char} {rest : Text} :
    Passes stop nesting (c :: rest) ↔
      stop nesting c = false ∧ Passes stop (nesting.step c) rest := by
  rw [Passes, Passes, breakAt]
  cases stop nesting c <;> simp

theorem passes_append {text tail : Text} :
    Passes stop nesting (text ++ tail) ↔
      Passes stop nesting text ∧ Passes stop (text.foldl step nesting) tail := by
  induction text generalizing nesting with
  | nil => simp
  | cons c rest ih =>
    rw [List.cons_append, passes_cons, passes_cons, ih, and_assoc]
    rfl

theorem Passes.breakAt_eq {text : Text} (passes : Passes stop nesting text) :
    breakAt stop nesting text = (text, []) := by
  have whole := breakAt_append stop nesting text
  rw [passes, List.append_nil] at whole
  exact Prod.ext whole passes

/-- A text is not cut where none of its characters asks for it. -/
theorem passes_of_passed {text : Text} (passed : ∀ c ∈ text, ∀ inner, stop inner c = false) :
    Passes stop nesting text := by
  rw [Passes, breakAt_of_passed passed]

/-- In a text without semicolons no comment begins. -/
theorem passes_of_uncommented {text : Text} (plain : ∀ c ∈ text, c ≠ ';') :
    Passes atComment nesting text := by
  refine passes_of_passed fun c member inner => ?_
  rw [atComment, beq_eq_false_iff_ne.2 (plain c member), Bool.and_false]

/-- What stands before a cut is not cut. -/
theorem passes_breakAt (text : Text) : Passes stop nesting (breakAt stop nesting text).1 := by
  induction text generalizing nesting with
  | nil => rfl
  | cons c rest ih =>
    rw [breakAt]
    split
    · rfl
    · rename_i passed
      exact passes_cons.2 ⟨Bool.eq_false_iff.2 passed, ih⟩

/-- A cut is made at the first place where it should be. -/
theorem stop_after_breakAt {text : Text} {c : Char} {rest : Text}
    (cut : (breakAt stop nesting text).2 = c :: rest) :
    stop ((breakAt stop nesting text).1.foldl step nesting) c = true := by
  induction text generalizing nesting with
  | nil => cases cut
  | cons first more ih =>
    unfold breakAt at cut ⊢
    split at cut
    · rename_i stops
      rw [if_pos stops]
      cases cut
      exact stops
    · rename_i passed
      rw [if_neg passed]
      exact ih cut

theorem breakAt_append_of_stop {text : Text} (passes : Passes stop nesting text) {c : Char}
    (stops : stop (text.foldl step nesting) c = true) (rest : Text) :
    breakAt stop nesting (text ++ c :: rest) = (text, c :: rest) := by
  rw [breakAt_append_of_whole passes, breakAt, if_pos stops, List.append_nil]

/-- Where the walk is the same before and after a text that is put in capitals, so are its cuts. -/
theorem Passes.asciiUpper (blind : ∀ nesting, Text.CaseBlind (stop nesting))
    (proper : nesting.Proper) {text : Text} (passes : Passes stop nesting text) :
    Passes stop nesting (asciiUpper text) := by
  rw [Passes, breakAt_asciiUpper blind proper, passes]
  rfl

theorem Passes.trim (proper : nesting.Proper) {text : Text} (passes : Passes stop nesting text) :
    Passes stop nesting (Text.trim text) := by
  obtain ⟨lead, trail, before, -, whole⟩ := Text.exists_trim text
  have first : lead.foldl step nesting = nesting :=
    foldl_step_of_isInert proper fun c member => isInert_of_isBlank (before c member)
  rw [whole, passes_append, first, passes_append] at passes
  exact passes.2.1

end Walks

/-! ## Pieces -/

/-- A text without a comma where nothing is open is one piece. -/
theorem pieces_of_passes {nesting : Nesting} {text : Text}
    (passes : Passes atComma nesting text) : pieces nesting text = [text] := by
  induction text generalizing nesting with
  | nil => rfl
  | cons c rest ih =>
    obtain ⟨first, others⟩ := passes_cons.1 passes
    rw [atComma] at first
    rw [pieces, first, ih others]
    rfl

theorem extendFirst_append (c : Char) {pieces : List Text} (some : pieces ≠ [])
    (others : List Text) :
    Text.extendFirst c (pieces ++ others) = Text.extendFirst c pieces ++ others := by
  cases pieces with
  | nil => exact absurd rfl some
  | cons piece rest => rfl

/-- A comma where nothing is open separates the pieces before it from those behind it. -/
theorem pieces_append_comma {nesting : Nesting} {text : Text}
    (closed : text.foldl step nesting = {}) (rest : Text) :
    pieces nesting (text ++ ',' :: rest) = pieces nesting text ++ pieces {} rest := by
  induction text generalizing nesting with
  | nil =>
    obtain rfl : nesting = {} := closed
    rfl
  | cons c more ih =>
    rw [List.cons_append, pieces, pieces]
    split
    · rename_i comma
      rw [Bool.and_eq_true, beq_iff_eq] at comma
      obtain ⟨top, rfl⟩ := comma
      obtain rfl := eq_start_of_isTop top
      have start : more.foldl step {} = {} := closed
      rw [ih start]
      rfl
    · rw [ih closed, extendFirst_append c (pieces_ne_nil _ more)]

/-- A text is one piece, or a piece, a comma and a text. -/
theorem pieces_induction {motive : Text → Prop}
    (last : ∀ text, Passes atComma {} text → motive text)
    (comma : ∀ first rest, Passes atComma {} first → first.foldl step {} = {} → motive rest →
      motive (first ++ ',' :: rest))
    (text : Text) : motive text := by
  induction bound : text.length using Nat.strong_induction_on generalizing text with
  | _ length ih =>
    have whole := breakAt_append atComma {} text
    have passes : Passes atComma {} (breakAt atComma {} text).1 := passes_breakAt text
    cases cut : (breakAt atComma {} text).2 with
    | nil => exact last text cut
    | cons c rest =>
      have stops := stop_after_breakAt cut
      rw [atComma, Bool.and_eq_true, beq_iff_eq] at stops
      obtain ⟨top, rfl⟩ := stops
      rw [cut] at whole
      have shorter : rest.length < length := by
        rw [← bound, ← whole, List.length_append, List.length_cons]
        omega
      rw [← whole]
      exact comma _ rest passes (eq_start_of_isTop top) (ih _ shorter rest rfl)

end Nesting

open Nesting

/-! ## Operands -/

/-- The text is one operand: it is not empty, has no blanks at its ends, and no comma where nothing
is open. -/
structure IsOperand (text : Text) : Prop where
  nonempty : text ≠ []
  trimmed : Text.IsTrimmed text
  passes : Passes atComma {} text

/-- The texts are operands, and nothing is open at the end of each but the last. -/
inductive OperandList : List Text → Prop where
  | nil : OperandList []
  | cons {operand : Text} {rest : List Text} (first : IsOperand operand)
      (closed : rest ≠ [] → operand.foldl step {} = {}) (others : OperandList rest) :
      OperandList (operand :: rest)

/-- A comma where nothing is open separates the operands before it from those behind it. -/
theorem splitOperands_append_comma {text : Text} (closed : text.foldl step {} = {})
    (rest : Text) :
    splitOperands (text ++ ',' :: rest) = splitOperands text ++ splitOperands rest := by
  rw [splitOperands, pieces_append_comma closed, List.map_append, List.filter_append]
  rfl

/-- A text without a comma where nothing is open holds one operand or none. -/
theorem splitOperands_of_passes {text : Text} (passes : Passes atComma {} text) :
    splitOperands text = if Text.trim text = [] then [] else [Text.trim text] := by
  rw [splitOperands, pieces_of_passes passes, List.map_singleton]
  by_cases empty : Text.trim text = []
  · rw [if_pos empty, List.filter_cons_of_neg (by simp [empty])]
    rfl
  · rw [if_neg empty, List.filter_cons_of_pos (by simp [empty])]
    rfl

theorem IsOperand.splitOperands_eq {operand : Text} (is : IsOperand operand) :
    splitOperands operand = [operand] := by
  rw [splitOperands_of_passes is.passes, Text.trim_of_isTrimmed is.trimmed, if_neg is.nonempty]

/-- A blank in front of operands does not matter. -/
theorem splitOperands_cons_of_isBlank {c : Char} (blank : Text.isBlank c = true) (text : Text) :
    splitOperands (c :: text) = splitOperands text := by
  have other : (c == ',') = false := by
    rw [beq_eq_false_iff_ne]
    rintro rfl
    exact absurd blank (by decide)
  have same : Nesting.step {} c = {} := step_of_isInert proper_start (isInert_of_isBlank blank)
  rw [splitOperands, splitOperands, pieces, other, Bool.and_false, same]
  cases found : pieces {} text with
  | nil => exact absurd found (pieces_ne_nil {} text)
  | cons piece others =>
    simp only [Bool.false_eq_true, if_false, Text.extendFirst, List.map_cons,
      Text.trim_cons_of_isBlank blank]

/-- Blanks in front of operands do not matter. -/
theorem splitOperands_append_of_isBlank {gap : Text} (blank : ∀ c ∈ gap, Text.isBlank c = true)
    (text : Text) : splitOperands (gap ++ text) = splitOperands text := by
  induction gap with
  | nil => rfl
  | cons c gap ih =>
    rw [List.cons_append, splitOperands_cons_of_isBlank (blank c List.mem_cons_self)]
    exact ih fun d member => blank d (List.mem_cons_of_mem c member)

theorem OperandList.isOperand {operands : List Text} (list : OperandList operands) :
    ∀ operand ∈ operands, IsOperand operand := by
  induction list with
  | nil => exact nofun
  | cons first _ _ ih => exact List.forall_mem_cons.2 ⟨first, ih⟩

/-- Operands that were split off are operands. -/
theorem operandList_splitOperands (text : Text) : OperandList (splitOperands text) := by
  have single : ∀ text, Passes atComma {} text → Text.trim text ≠ [] →
      IsOperand (Text.trim text) := fun text passes nonempty =>
    ⟨nonempty, Text.isTrimmed_trim text, passes.trim proper_start⟩
  induction text using pieces_induction with
  | last text passes =>
    rw [splitOperands_of_passes passes]
    split
    · exact .nil
    · rename_i nonempty
      exact .cons (single text passes nonempty) (absurd rfl) .nil
  | comma first rest passes closed ih =>
    rw [splitOperands_append_comma closed, splitOperands_of_passes passes]
    split
    · exact ih
    · rename_i nonempty
      refine .cons (single first passes nonempty) (fun _ => ?_) ih
      rw [foldl_step_trim proper_start, closed]

/-! ## Operands put together -/

theorem joined_cons_of_ne_nil (separator piece : Text) {pieces : List Text} (some : pieces ≠ []) :
    Text.joined separator (piece :: pieces) = piece ++ separator ++ Text.joined separator pieces := by
  cases pieces with
  | nil => exact absurd rfl some
  | cons next rest => simp [Text.joined, List.intercalate_cons_cons]

@[simp]
theorem joined_nil (separator : Text) : Text.joined separator [] = [] := rfl

@[simp]
theorem joined_singleton (separator piece : Text) : Text.joined separator [piece] = piece :=
  List.intercalate_singleton

/-- Operands joined by commas, with the same blanks behind each of them, are split into what they
were. -/
theorem splitOperands_joined_spaced {gap : Text} (blank : ∀ c ∈ gap, Text.isBlank c = true)
    {operands : List Text} (list : OperandList operands) :
    splitOperands (Text.joined (',' :: gap) operands) = operands := by
  induction list with
  | nil => rfl
  | @cons operand rest first closed others ih =>
    by_cases last : rest = []
    · subst last
      rw [joined_singleton, first.splitOperands_eq]
    · have whole : Text.joined (',' :: gap) (operand :: rest) =
          operand ++ ',' :: (gap ++ Text.joined (',' :: gap) rest) := by
        rw [joined_cons_of_ne_nil _ _ last, List.append_assoc]
        rfl
      rw [whole, splitOperands_append_comma (closed last), first.splitOperands_eq,
        splitOperands_append_of_isBlank blank, ih]
      rfl

/-- Operands joined by commas are split into what they were. -/
theorem splitOperands_joined {operands : List Text} (list : OperandList operands) :
    splitOperands (Text.joined ", " operands) = operands := by
  have space : ∀ c ∈ [' '], Text.isBlank c = true := Text.forall_mem_of_all (by decide)
  exact splitOperands_joined_spaced space list

/-- **Operands are split at commas, and splitting leaves alone what it has split.**  A comma where
nothing is open separates the operands before it from those behind it, whatever these texts are.
What is split off is not empty, has no blanks around it and is one operand by itself, and the
operands of a text are found again when they are joined by commas, with or without blanks. -/
theorem splitOperands_splits_at_commas :
    (∀ text rest : Text, (text.foldl step {}).isTop = true →
      splitOperands (text ++ ',' :: rest) = splitOperands text ++ splitOperands rest) ∧
    ∀ text : Text,
      (∀ operand ∈ splitOperands text,
        operand ≠ [] ∧ Text.trim operand = operand ∧ splitOperands operand = [operand]) ∧
      splitOperands (Text.joined "," (splitOperands text)) = splitOperands text ∧
      splitOperands (Text.joined ", " (splitOperands text)) = splitOperands text := by
  refine ⟨fun text rest top => splitOperands_append_comma (eq_start_of_isTop top) rest, ?_⟩
  intro text
  have list := operandList_splitOperands text
  have nothing : ∀ c ∈ ([] : Text), Text.isBlank c = true := nofun
  refine ⟨?_, splitOperands_joined_spaced nothing list, splitOperands_joined list⟩
  intro operand member
  have is := list.isOperand operand member
  exact ⟨is.nonempty, Text.trim_of_isTrimmed is.trimmed, is.splitOperands_eq⟩

/-- A comma in quotes, one between brackets, an empty operand, a closing bracket too many, and an
opening one that is never closed. -/
theorem splitOperands_splits_at_commas_unbalanced :
    let text : Text := "\"a,b\"), ,[c , d]"
    let rest : Text := " f(1, 2 "
    (text.foldl step {}).isTop = true ∧
      splitOperands text = ["\"a,b\")".toList, "[c , d]".toList] ∧
      splitOperands (text ++ ',' :: rest) = splitOperands text ++ ["f(1, 2".toList] ∧
      splitOperands (Text.joined "," (splitOperands (text ++ ',' :: rest))) =
        splitOperands (text ++ ',' :: rest) := by
  obtain ⟨separates, keeps⟩ := splitOperands_splits_at_commas
  intro text rest
  have top : (text.foldl step {}).isTop = true := by decide
  have behind : splitOperands rest = ["f(1, 2".toList] := by decide
  refine ⟨top, by decide, ?_, (keeps _).2.1⟩
  rw [separates text rest top, behind]

theorem OperandList.joined_ne_nil {operands : List Text} (list : OperandList operands)
    (some : operands ≠ []) : Text.joined ", " operands ≠ [] := by
  cases list with
  | nil => exact absurd rfl some
  | @cons operand rest first closed others =>
    cases rest with
    | nil => simpa using first.nonempty
    | cons next rest => simp [joined_cons_of_ne_nil, first.nonempty]

theorem OperandList.joined_trimmed {operands : List Text} (list : OperandList operands) :
    Text.IsTrimmed (Text.joined ", " operands) := by
  induction list with
  | nil => exact ⟨rfl, rfl⟩
  | @cons operand rest first closed others ih =>
    by_cases last : rest = []
    · subst last
      rw [joined_singleton]
      exact first.trimmed
    · rw [joined_cons_of_ne_nil _ _ last, List.append_assoc]
      exact first.trimmed.append first.nonempty ih (others.joined_ne_nil last) _

/-! ## Other spacing -/

/-- The second text differs from the first one in nothing that matters to quotes, brackets and
comments: the same is open at its end, and it has no comment if the first one has none. -/
structure Respaced (text other : Text) : Prop where
  nesting : other.foldl step {} = text.foldl step {}
  passes : Passes atComment {} text → Passes atComment {} other

namespace Respaced

variable {text other rest others : Text}

theorem refl (text : Text) : Respaced text text := ⟨rfl, id⟩

theorem trim (text : Text) : Respaced text (Text.trim text) :=
  ⟨foldl_step_trim proper_start text, fun passes => passes.trim proper_start⟩

theorem trans {third : Text} (here : Respaced text other) (there : Respaced other third) :
    Respaced text third :=
  ⟨there.nesting.trans here.nesting, fun passes => there.passes (here.passes passes)⟩

/-- Texts may be put one after the other where nothing is open between them. -/
theorem append (here : Respaced text other) (closed : text.foldl step {} = {})
    (there : Respaced rest others) : Respaced (text ++ rest) (other ++ others) := by
  constructor
  · rw [List.foldl_append, List.foldl_append, here.nesting, closed, there.nesting]
  · rw [passes_append, passes_append, here.nesting, closed]
    exact fun passes => ⟨here.passes passes.1, there.passes passes.2⟩

/-- Blanks, commas, words and colons may be put in front of a text and taken away from it. -/
theorem inert {front other : Text} (before : ∀ c ∈ front, isInert c = true ∧ c ≠ ';')
    (after : ∀ c ∈ other, isInert c = true ∧ c ≠ ';') : Respaced front other := by
  have still : ∀ text : Text, (∀ c ∈ text, isInert c = true ∧ c ≠ ';') →
      text.foldl step {} = {} := fun text marks =>
    foldl_step_of_isInert proper_start fun c member => (marks c member).1
  refine ⟨(still other after).trans (still front before).symm, fun _ => ?_⟩
  exact passes_of_uncommented fun c member => (after c member).2

/-- A blank may be put in front. -/
theorem blank (respaced : Respaced text other) : Respaced text (' ' :: other) := by
  have nothing : ∀ c ∈ ([] : Text), isInert c = true ∧ c ≠ ';' := nofun
  have space : ∀ c ∈ [' '], isInert c = true ∧ c ≠ ';' := Text.forall_mem_of_all (by decide)
  exact (inert nothing space).append rfl respaced

end Respaced

/-- Operands that are split off and joined by commas again are only spaced in another way. -/
theorem respaced_joined (text : Text) :
    Respaced text (Text.joined ", " (splitOperands text)) := by
  have comma : ∀ c ∈ [','], isInert c = true ∧ c ≠ ';' := Text.forall_mem_of_all (by decide)
  have spaced : ∀ c ∈ [',', ' '], isInert c = true ∧ c ≠ ';' := Text.forall_mem_of_all (by decide)
  induction text using pieces_induction with
  | last text passes =>
    rw [splitOperands_of_passes passes]
    split
    · rename_i empty
      rw [joined_nil, ← empty]
      exact .trim text
    · rw [joined_singleton]
      exact .trim text
  | comma first rest passes closed ih =>
    -- The comma stays, is left out with an empty operand before it, or with all operands behind it.
    have front : ∀ separator : Text, (∀ c ∈ separator, isInert c = true ∧ c ≠ ';') →
        Respaced (first ++ [',']) (Text.trim first ++ separator) := fun separator marks =>
      (Respaced.trim first).append closed (.inert comma marks)
    have shut : (first ++ [',']).foldl step {} = {} := by
      rw [List.foldl_append, closed]
      rfl
    have whole : first ++ ',' :: rest = (first ++ [',']) ++ rest := by simp
    rw [splitOperands_append_comma closed, splitOperands_of_passes passes, whole]
    split
    · rename_i empty
      have nothing := (front [] nofun).append shut ih
      rwa [empty] at nothing
    · by_cases last : splitOperands rest = []
      · have nothing := (front [] nofun).append shut ih
        rw [last] at nothing ⊢
        simpa using nothing
      · rw [List.singleton_append, joined_cons_of_ne_nil _ _ last]
        exact (front [',', ' '] spaced).append shut ih

end Sm83Cost.Line
