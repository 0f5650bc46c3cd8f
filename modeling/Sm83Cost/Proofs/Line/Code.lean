import Sm83Cost.Proofs.Line.Parse
import Sm83Cost.Proofs.Text.Keyword

/-!
# Lines by their code

A trimmed line is its code, and then nothing or a comment behind some blanks
(`trim_eq_codeOf_append`).  Only the code is taken apart.  Adding to a comment, or
a comment where no quote is open, leaves the code as it is (`codeOf_append`).

Code that begins with a keyword, with a blank or nothing behind it, has no label,
and the keyword is its mnemonic (`Leads.labelAndCode`, `Leads.splitMnemonic`).
-/

namespace Sm83Cost.Line

set_option autoImplicit false

/-! ## Cutting texts that are put together -/

namespace Nesting

variable {stop : Nesting → Char → Bool}

/-- What follows the place of a cut does not move it. -/
theorem breakAt_append_of_found {nesting : Nesting} {text : Text}
    (found : (breakAt stop nesting text).2 ≠ []) (tail : Text) :
    breakAt stop nesting (text ++ tail) =
      ((breakAt stop nesting text).1, (breakAt stop nesting text).2 ++ tail) := by
  induction text generalizing nesting with
  | nil => exact absurd rfl found
  | cons c rest ih =>
    rw [List.cons_append]
    unfold breakAt at found ⊢
    split
    · rfl
    · rename_i passed
      rw [if_neg passed] at found
      rw [ih found]

/-- A text that is not cut is passed over, and the cut is looked for behind it. -/
theorem breakAt_append_of_whole {nesting : Nesting} {text : Text}
    (whole : (breakAt stop nesting text).2 = []) (tail : Text) :
    breakAt stop nesting (text ++ tail) =
      (text ++ (breakAt stop (text.foldl step nesting) tail).1,
        (breakAt stop (text.foldl step nesting) tail).2) := by
  induction text generalizing nesting with
  | nil => rfl
  | cons c rest ih =>
    unfold breakAt at whole
    split at whole
    · cases whole
    · rename_i passed
      rw [List.cons_append, breakAt, if_neg passed, ih whole]
      rfl

theorem breakAt_of_passed {text : Text} (passed : ∀ c ∈ text, ∀ inner, stop inner c = false)
    (nesting : Nesting) :
    breakAt stop nesting text = (text, []) := by
  induction text generalizing nesting with
  | nil => rfl
  | cons c rest ih =>
    have others : ∀ d ∈ rest, ∀ inner, stop inner d = false :=
      fun d member => passed d (List.mem_cons_of_mem c member)
    rw [breakAt, passed c List.mem_cons_self nesting, ih others]
    rfl

/-- A cut is made where it should be. -/
theorem stop_of_breakAt {nesting : Nesting} {text : Text} {c : Char} {rest : Text}
    (cut : (breakAt stop nesting text).2 = c :: rest) : ∃ inner, stop inner c = true := by
  induction text generalizing nesting with
  | nil => cases cut
  | cons first more ih =>
    unfold breakAt at cut
    split at cut
    · rename_i stops
      cases cut
      exact ⟨nesting, stops⟩
    · exact ih cut

/-- Letters open and close nothing. -/
theorem foldl_step_of_letters {word : Text} (letters : ∀ c ∈ word, Text.isLetter c = true) :
    word.foldl step {} = {} := by
  induction word with
  | nil => rfl
  | cons c rest ih =>
    have unmarked := (Text.plain_of_isLetter (letters c List.mem_cons_self)).2.2
    have same : step {} c = {} := by
      simp only [Text.marks, List.mem_cons, not_or] at unmarked
      simp [step, isQuote, isOpener, isCloser, unmarked]
    rw [List.foldl_cons, same]
    exact ih fun d member => letters d (List.mem_cons_of_mem c member)

end Nesting

/-! ## Code and comment -/

/-- The code of a line without the blanks around it. -/
def codeOf (text : Text) : Text :=
  Text.trim (codePart text)

/-- Only the code is taken apart. -/
theorem parse_eq (isMacro : Text → Bool) (number : Int) (raw : Text) :
    parse isMacro number raw =
      (operationOf isMacro (labelAndCode (codeOf raw)).2).map fun operation =>
        { number, raw, label := (labelAndCode (codeOf raw)).1, operation,
          comment := commentPart? raw } := by
  show (operationOf isMacro (labelAndCode (codeOf raw)).2 >>= fun _ => _) = _
  cases operationOf isMacro (labelAndCode (codeOf raw)).2 <;> rfl

/-- What follows the code of a trimmed line: nothing, or a comment behind some blanks. -/
inductive Remark : Text → Prop where
  | none : Remark []
  | comment {gap : Text} (blank : ∀ c ∈ gap, Text.isBlank c = true) (rest : Text) :
      Remark (gap ++ ';' :: rest)

/-- What follows the code begins with a blank or a semicolon. -/
theorem Remark.stop {remark : Text} (follows : Remark remark) {p : Char → Bool}
    (blanks : ∀ c, Text.isBlank c = true → p c = false) (mark : p ';' = false) :
    remark.head?.any p = false := by
  cases follows with
  | none => rfl
  | @comment gap blank rest =>
    cases gap with
    | nil => exact mark
    | cons c gap => exact blanks c (blank c List.mem_cons_self)

/-- Dropping blanks leaves something that may follow code. -/
theorem Remark.dropWhile_isBlank {remark : Text} (follows : Remark remark) (text : Text) :
    ∃ other, Remark other ∧
      (text ++ remark).dropWhile Text.isBlank = text.dropWhile Text.isBlank ++ other := by
  rw [List.dropWhile_append]
  split
  · rename_i allBlank
    refine ⟨remark.dropWhile Text.isBlank, ?_, ?_⟩
    · cases follows with
      | none => exact .none
      | comment blank rest =>
        rw [List.dropWhile_append_of_pos blank]
        exact @Remark.comment [] nofun rest
    · rw [List.isEmpty_iff.1 allBlank, List.nil_append]
  · exact ⟨remark, follows, rfl⟩

/-- A comment begins with a semicolon. -/
theorem cutComment_cases (text : Text) :
    (cutComment text).2 = [] ∨ ∃ rest, (cutComment text).2 = ';' :: rest := by
  cases cut : (cutComment text).2 with
  | nil => exact .inl rfl
  | cons c rest =>
    obtain ⟨inner, stops⟩ := Nesting.stop_of_breakAt cut
    rw [Bool.and_eq_true, beq_iff_eq] at stops
    exact .inr ⟨rest, by rw [stops.2]⟩

/-- A text that begins with a semicolon is trimmed at its end. -/
theorem exists_trim_comment (comment : Text) :
    ∃ rest trail, (∀ c ∈ trail, Text.isBlank c = true) ∧ ';' :: comment = ';' :: rest ++ trail ∧
      (';' :: rest).getLast?.any Text.isBlank = false := by
  obtain ⟨lead, trail, before, after, whole⟩ := Text.exists_trim (';' :: comment)
  have trimmed := Text.isTrimmed_trim (';' :: comment)
  have mark : ¬ Text.isBlank ';' = true := by decide
  cases lead with
  | cons c lead =>
    have same : ';' = c := (List.cons.inj whole).1
    exact absurd (before ';' (same ▸ List.mem_cons_self)) mark
  | nil =>
    cases kept : Text.trim (';' :: comment) with
    | nil =>
      rw [kept, List.nil_append, List.nil_append] at whole
      exact absurd (after ';' (whole ▸ List.mem_cons_self)) mark
    | cons c rest =>
      rw [kept] at whole trimmed
      have same : ';' = c := (List.cons.inj whole).1
      subst same
      exact ⟨rest, trail, after, whole, trimmed.2⟩

/-- A trimmed line is its code and what follows it. -/
theorem trim_eq_codeOf_append (text : Text) :
    ∃ remark, Remark remark ∧ Text.trim text = codeOf text ++ remark := by
  have line := codePart_append text
  rcases cutComment_cases text with uncommented | ⟨comment, commented⟩
  · rw [uncommented, List.append_nil] at line
    exact ⟨[], .none, by rw [codeOf, line, List.append_nil]⟩
  · obtain ⟨lead, trail, before, after, code⟩ := Text.exists_trim (codePart text)
    obtain ⟨rest, more, behind, ended, last⟩ := exists_trim_comment comment
    have trimmed := Text.isTrimmed_trim (codePart text)
    rw [← codeOf] at code trimmed
    rw [commented, code, ended] at line
    cases kept : codeOf text with
    | nil =>
      -- There is no code, so the blanks before the comment are trimmed away.
      refine ⟨';' :: rest, @Remark.comment [] nofun rest, ?_⟩
      have blanks : ∀ c ∈ lead ++ trail, Text.isBlank c = true := by
        intro c member
        exact (List.mem_append.1 member).elim (before c) (after c)
      have ends : Text.IsTrimmed (';' :: rest) := ⟨rfl, last⟩
      rw [kept] at line
      rw [List.nil_append, ← Text.trim_eq blanks behind ends, ← line]
      simp only [List.nil_append, List.append_assoc]
    | cons c others =>
      refine ⟨trail ++ ';' :: rest, .comment after rest, ?_⟩
      rw [kept] at trimmed line
      have ends : Text.IsTrimmed (c :: others ++ (trail ++ ';' :: rest)) := by
        refine ⟨trimmed.1, ?_⟩
        rwa [← List.append_assoc, List.getLast?_append, List.getLast?_cons, Option.some_or,
          ← List.getLast?_cons]
      rw [← Text.trim_eq before behind ends, ← line]
      simp only [List.append_assoc]

/-- A line takes a remark if it has a comment already, or no quote is open at its end. -/
def takesRemark (text : Text) : Bool :=
  !(cutComment text).2.isEmpty || (text.foldl Nesting.step {}).quote.isNone

/-- A remark at the end of a line leaves its code as it is. -/
theorem codeOf_append {text : Text} (takes : takesRemark text = true) (remark : Text) :
    codeOf (text ++ ' ' :: ';' :: remark) = codeOf text := by
  rw [codeOf, codeOf, codePart, codePart]
  by_cases found : (cutComment text).2 = []
  · have closed : (text.foldl Nesting.step {}).quote = none := by
      simpa [takesRemark, found] using takes
    have blank : (' ' == ';') = false := by decide
    have space : ∀ nesting : Nesting, nesting.quote = none → nesting.step ' ' = nesting := by
      intro nesting unquoted
      simp [Nesting.step, unquoted, Nesting.isQuote, Nesting.isOpener, Nesting.isCloser]
    have cut : cutComment (text ++ ' ' :: ';' :: remark) = (text ++ [' '], ';' :: remark) := by
      rw [cutComment, Nesting.breakAt_append_of_whole found]
      simp [Nesting.breakAt, closed, space]
    have whole := codePart_append text
    rw [found, List.append_nil, codePart] at whole
    rw [cut, whole]
    exact Text.trim_append_blanks (Text.forall_mem_of_all (by decide)) text
  · rw [cutComment, Nesting.breakAt_append_of_found found]
    rfl

/-! ## Code that begins with a keyword -/

/-- The word is a keyword, in any case, and a blank or nothing follows it. -/
structure Leads (keyword word rest : Text) : Prop where
  folded : word.map Text.fold = keyword
  apart : rest.head?.all Text.isBlank = true

namespace Leads

variable {keyword word rest : Text} (leads : Leads keyword word rest)
  (small : keyword.all Char.isLower = true)
include leads

theorem stop {p : Char → Bool} (blanks : ∀ c, Text.isBlank c = true → p c = false) :
    rest.head?.any p = false := by
  have apart := leads.apart
  cases rest with
  | nil => rfl
  | cons c more => exact blanks c apart

include small

theorem letters : ∀ c ∈ word, Text.isLetter c = true :=
  fun _ => Text.isLetter_of_mem leads.folded small

theorem takeWhile_isWord : (word ++ rest).takeWhile Text.isWord = word := by
  rw [Text.takeWhile_append_of_head? (leads.stop fun _ blank => (Text.plain_of_isBlank blank).1),
    List.takeWhile_eq_self_iff]
  exact fun c member => (Text.plain_of_isLetter (leads.letters small c member)).1

theorem dropWhile_isWord : (word ++ rest).dropWhile Text.isWord = rest := by
  have whole := List.takeWhile_append_dropWhile (p := Text.isWord) (l := word ++ rest)
  rw [leads.takeWhile_isWord small] at whole
  exact List.append_cancel_left whole

/-- Code that begins with a keyword has no label. -/
theorem labelAndCode (nonempty : keyword ≠ []) :
    labelAndCode (word ++ rest) = (none, word ++ rest) := by
  have unlabelled : splitLabel? (word ++ rest) = none := by
    have taken := leads.takeWhile_isWord small
    have left := leads.dropWhile_isWord small
    have marks := fun c member => (Text.plain_of_isLetter (leads.letters small c member)).2.2
    have colon : rest.head? ≠ some ':' := by
      intro first
      have apart := leads.apart
      rw [first] at apart
      exact absurd apart (by decide)
    cases word with
    | nil => exact absurd leads.folded.symm nonempty
    | cons c word =>
      have global : c ≠ '.' := by
        rintro rfl
        exact marks '.' List.mem_cons_self (by decide)
      rw [List.cons_append] at taken left ⊢
      rw [splitLabel?_of_ne global, taken, left]
      split
      · rfl
      · exact absurd rfl colon
      · rfl
  rw [Line.labelAndCode, unlabelled]

/-- The keyword at the beginning of code is its mnemonic. -/
theorem splitMnemonic (trimmed : Text.IsTrimmed (word ++ rest)) :
    splitMnemonic (word ++ rest) = (word, Text.trim rest) := by
  have letters := leads.letters small
  have passed : ∀ c ∈ word, ∀ inner : Nesting, (inner.isTop && Text.isBlank c) = false := by
    intro c member inner
    rw [(Text.plain_of_isLetter (letters c member)).2.1, Bool.and_false]
  have whole := Nesting.breakAt_of_passed passed {}
  have cut : Nesting.breakAt (fun nesting c => nesting.isTop && Text.isBlank c) {} (word ++ rest) =
      (word, rest) := by
    rw [Nesting.breakAt_append_of_whole (congrArg Prod.snd whole),
      Nesting.foldl_step_of_letters letters]
    have apart := leads.apart
    cases rest with
    | nil => simp [Nesting.breakAt]
    | cons c more =>
      have blank : Text.isBlank c = true := apart
      simp [Nesting.breakAt, Nesting.isTop, blank]
  rw [Line.splitMnemonic, Text.trim_of_isTrimmed trimmed, cut]

end Leads

/-- Behind a mnemonic there is a blank or nothing. -/
theorem exists_splitMnemonic {code : Text} (trimmed : Text.IsTrimmed code) :
    ∃ rest, code = (splitMnemonic code).1 ++ rest ∧ rest.head?.all Text.isBlank = true := by
  rw [splitMnemonic, Text.trim_of_isTrimmed trimmed]
  refine ⟨_, (Nesting.breakAt_append _ {} code).symm, ?_⟩
  cases cut : (Nesting.breakAt (fun nesting c => nesting.isTop && Text.isBlank c) {} code).2 with
  | nil => rfl
  | cons c rest =>
    obtain ⟨inner, stops⟩ := Nesting.stop_of_breakAt cut
    exact (Bool.and_eq_true_iff.1 stops).2

/-- A keyword of ordinary letters is the mnemonic of trimmed code exactly when the code begins with
it. -/
theorem upper_splitMnemonic_iff {keyword : Text}
    (ordinary : ∀ c ∈ keyword, c ∈ Text.ordinaryLetters) {code : Text}
    (trimmed : Text.IsTrimmed code) :
    Text.upper (splitMnemonic code).1 = keyword.map Char.toUpper ↔
      ∃ word rest, code = word ++ rest ∧ Leads keyword word rest := by
  rw [Text.upper_eq_iff ordinary]
  constructor
  · intro folded
    obtain ⟨rest, whole, apart⟩ := exists_splitMnemonic trimmed
    exact ⟨_, rest, whole, folded, apart⟩
  · rintro ⟨word, rest, rfl, leads⟩
    have letters : ∀ c ∈ Text.ordinaryLetters, c.isLower = true :=
      Text.forall_mem_of_all (by decide)
    have small : keyword.all Char.isLower = true :=
      List.all_eq_true.2 fun c member => letters c (ordinary c member)
    rw [leads.splitMnemonic small trimmed]
    exact leads.folded

end Sm83Cost.Line
