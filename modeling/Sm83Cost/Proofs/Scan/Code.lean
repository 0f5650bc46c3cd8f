import Sm83Cost.Proofs.Line.Code
import Sm83Cost.Proofs.Line.View

/-!
# Landmarks by code

A scan looks for landmarks on the whole trimmed line, with its comment.  Still
only the code decides what happens to macros: a macro begins or ends on a line
exactly when it does on the code of the line (`header?_trim`, `isMacroEnd_trim`).

For included files and for labels this is not so.  `INCLUDE` with nothing behind
it takes the comment for a file, and a label with a comment directly behind its
colon is not seen.  A scan that looks for no files does nothing about either, and
such lines can always be taken apart, so what a line means to it depends on the
code alone (`cue_eq`).
-/

namespace Sm83Cost

set_option autoImplicit false

namespace Scan

open Line (Remark Leads codeOf)

/-! ## Code with something behind it -/

section Append

variable {remark : Text} (follows : Remark remark)
include follows

theorem takeWhile_isWord_append (text : Text) :
    (text ++ remark).takeWhile Text.isWord = text.takeWhile Text.isWord :=
  Text.takeWhile_append_of_head?
    (follows.stop (fun _ blank => (Text.plain_of_isBlank blank).1) (by decide)) text

theorem dropWhile_isWord_append (text : Text) :
    (text ++ remark).dropWhile Text.isWord = text.dropWhile Text.isWord ++ remark :=
  Text.dropWhile_append_of_head?
    (follows.stop (fun _ blank => (Text.plain_of_isBlank blank).1) (by decide)) text

theorem afterKeyword?_append {keyword : Text} (small : keyword.all Char.isLower = true)
    (text : Text) :
    Text.afterKeyword? keyword (text ++ remark) =
      (Text.afterKeyword? keyword text).map (· ++ remark) :=
  Text.afterKeyword?_append small
    (follows.stop (fun _ blank => (Text.plain_of_isBlank blank).2.1) (by decide)) text

theorem isWordEnd_append (rest : Text) : isWordEnd (rest ++ remark) = isWordEnd rest := by
  cases rest with
  | nil =>
    have stop : remark.head?.any Text.isWord = false :=
      follows.stop (fun _ blank => (Text.plain_of_isBlank blank).1) (by decide)
    rw [isWordEnd, List.nil_append, stop]
    rfl
  | cons c rest => rfl

theorem leadingWord?_append (code : Text) :
    leadingWord? (code ++ remark) =
      (leadingWord? code).map fun parts => (parts.1, parts.2 ++ remark) := by
  rw [leadingWord?, leadingWord?, takeWhile_isWord_append follows,
    dropWhile_isWord_append follows, Option.map_map]
  rfl

theorem isMacroEnd_append (code : Text) : isMacroEnd (code ++ remark) = isMacroEnd code := by
  rw [isMacroEnd, isMacroEnd, afterKeyword?_append follows (by decide), Option.any_map]
  congr 1
  exact funext (isWordEnd_append follows)

/-- What follows code does not begin with a colon. -/
theorem ne_colon {c : Char} {rest : Text} (begins : remark = c :: rest) : c ≠ ':' := by
  have stop : remark.head?.any (· == ':') = false :=
    follows.stop (fun c blank => beq_eq_false_iff_ne.2 (Text.plain_of_isBlank blank).2.2.1)
      (by decide)
  rw [begins] at stop
  exact beq_eq_false_iff_ne.1 stop

theorem nameFirst?_append (code : Text) : nameFirst? (code ++ remark) = nameFirst? code := by
  rw [nameFirst?, nameFirst?, leadingWord?_append follows]
  cases leadingWord? code with
  | none => rfl
  | some parts =>
    obtain ⟨name, rest⟩ := parts
    simp only [Option.map_some, Option.bind_some]
    cases rest with
    | nil =>
      rw [List.nil_append]
      split
      · rename_i more
        exact absurd rfl (ne_colon follows rfl)
      · rfl
    | cons mark more =>
      by_cases colon : mark = ':'
      · subst colon
        obtain ⟨other, otherFollows, dropped⟩ := follows.dropWhile_isBlank more
        simp only [List.cons_append, dropped, afterKeyword?_append otherFollows
          (show ("macro" : Text).all Char.isLower = true by decide)]
        cases Text.afterKeyword? "macro" (more.dropWhile Text.isBlank) with
        | none => rfl
        | some after =>
          simp only [Option.map_some, Option.bind_some, isWordEnd_append otherFollows]
      · simp [colon]

theorem keywordFirst?_append (code : Text) :
    keywordFirst? (code ++ remark) = keywordFirst? code := by
  rw [keywordFirst?, keywordFirst?, afterKeyword?_append follows (by decide)]
  cases Text.afterKeyword? "macro" code with
  | none => rfl
  | some rest =>
    simp only [Option.map_some, Option.bind_some]
    cases rest with
    | nil =>
      -- No name follows: behind the blanks the comment begins, or nothing does.
      obtain ⟨other, otherFollows, dropped⟩ := follows.dropWhile_isBlank []
      have nameless := takeWhile_isWord_append otherFollows []
      rw [List.nil_append] at dropped nameless ⊢
      cases remark with
      | nil => rfl
      | cons c more =>
        by_cases blank : Text.isBlank c = true
        · rw [List.dropWhile_cons_of_pos blank] at dropped
          simp only [afterBlanks?, if_pos blank, Option.bind_some, dropped, List.dropWhile_nil,
            List.nil_append, nameless]
          rfl
        · simp only [afterBlanks?, if_neg blank]
    | cons c rest =>
      obtain ⟨other, otherFollows, dropped⟩ := follows.dropWhile_isBlank rest
      simp only [List.cons_append, afterBlanks?, dropped]
      split
      · simp only [Option.bind_some, takeWhile_isWord_append otherFollows]
      · rfl

theorem header?_append (code : Text) : header? (code ++ remark) = header? code := by
  rw [header?, header?, nameFirst?_append follows, keywordFirst?_append follows]

omit follows in
/-- A word before a colon is the label of the code. -/
theorem labelAndCode_of_leadingWord? {code name rest : Text}
    (found : leadingWord? code = some (name, ':' :: rest)) :
    Line.labelAndCode code = (some name, Text.trim (Line.dropColons 1 rest)) := by
  obtain ⟨word, nonempty, made⟩ := Option.map_eq_some_iff.1 found
  obtain ⟨rfl, behind⟩ := Prod.mk.inj made
  cases code with
  | nil => cases behind
  | cons c more =>
    have global : c ≠ '.' := by
      rintro rfl
      rw [List.dropWhile_cons_of_neg (by decide)] at behind
      cases behind
    have labelled : Line.splitLabel? (c :: more) = some (word, Line.dropColons 1 rest) := by
      rw [Line.splitLabel?_of_ne global, behind]
      generalize (c :: more).takeWhile Text.isWord = taken at nonempty ⊢
      cases taken with
      | nil => cases nonempty
      | cons first others => exact congrArg (fun name => some (name, _)) (Option.some.inj nonempty)
    rw [Line.labelAndCode, labelled]

omit follows in
/-- Behind a single colon a label needs a blank. -/
theorem label?_of_single {code name rest : Text} {c : Char}
    (found : leadingWord? code = some (name, ':' :: c :: rest)) (single : c ≠ ':') :
    label? code = if Text.isBlank c then some name else none := by
  rw [label?, found, Option.bind_some]
  dsimp only
  split
  · rename_i same
    exact absurd (List.cons.inj (List.cons.inj same).2).1 single
  · rename_i same
    obtain rfl := (List.cons.inj same).2
    rfl
  · rename_i others
    exact absurd rfl (others _)

/-- A label is seen whatever follows, unless it follows the colon directly; then there is no code
behind the label. -/
theorem label?_append (code : Text) :
    label? (code ++ remark) = label? code ∨
      (label? code).isSome = true ∧ (Line.labelAndCode code).2 = [] := by
  have followed := leadingWord?_append follows code
  cases found : leadingWord? code with
  | none =>
    rw [found] at followed
    exact .inl (by rw [label?, label?, followed, found, Option.map_none])
  | some parts =>
    obtain ⟨name, rest⟩ := parts
    rw [found, Option.map_some] at followed
    cases rest with
    | nil =>
      refine .inl ?_
      rw [label?, label?, followed, found, Option.bind_some, Option.bind_some]
      dsimp only [List.nil_append]
      split
      · exact absurd rfl (ne_colon follows rfl)
      · exact absurd rfl (ne_colon follows rfl)
      · rfl
    | cons mark more =>
      by_cases colon : mark = ':'
      · subst colon
        have behind := labelAndCode_of_leadingWord? found
        cases more with
        | nil => exact .inr ⟨by rw [label?, found]; rfl, congrArg Prod.snd behind⟩
        | cons second others =>
          by_cases double : second = ':'
          · subst double
            cases others with
            | nil => exact .inr ⟨by rw [label?, found]; rfl, congrArg Prod.snd behind⟩
            | cons c others => exact .inl (by rw [label?, label?, followed, found]; rfl)
          · exact .inl ((label?_of_single followed double).trans
              (label?_of_single found double).symm)
      · exact .inl (by simp [label?, followed, found, colon])

/-- A line that includes a file begins with the keyword. -/
theorem leads_of_inclusion? {code target : Text}
    (included : inclusion? (code ++ remark) = some target) :
    ∃ word rest, code = word ++ rest ∧ Leads "include" word rest := by
  rw [inclusion?, afterKeyword?_append follows (by decide)] at included
  obtain ⟨behind, blanks, -⟩ := Option.bind_eq_some_iff.1 included
  obtain ⟨after, found, apart⟩ := Option.bind_eq_some_iff.1 blanks
  obtain ⟨rest, keyword, rfl⟩ := Option.map_eq_some_iff.1 found
  obtain ⟨word, whole, folded⟩ := Text.afterKeyword?_eq_some.1 keyword
  refine ⟨word, rest, whole, folded, ?_⟩
  cases rest with
  | nil => rfl
  | cons c rest =>
    rw [List.cons_append, afterBlanks?] at apart
    split at apart
    · assumption
    · cases apart

end Append

/-! ## Lines that include files -/

section Inclusion

variable {word rest : Text} (leads : Leads "include" word rest)
include leads

/-- No macro begins on a line that includes a file. -/
theorem header?_of_include : header? (word ++ rest) = none := by
  have small : ("include" : Text).all Char.isLower = true := by decide
  have named : nameFirst? (word ++ rest) = none := by
    have colon : ∀ more, rest ≠ ':' :: more := by
      rintro more rfl
      exact absurd leads.apart (show ¬ Text.isBlank ':' = true by decide)
    rw [nameFirst?, leadingWord?, leads.dropWhile_isWord small, leads.takeWhile_isWord small]
    cases nonempty? word with
    | none => rfl
    | some name =>
      simp only [Option.map_some, Option.bind_some]
  have keyword : keywordFirst? (word ++ rest) = none := by
    have folded := leads.folded
    cases word with
    | nil => cases folded
    | cons c word =>
      have differs : Text.fold c ≠ 'm' := by
        rw [(List.cons.inj folded).1]
        decide
      have absent : Text.afterKeyword? "macro" (c :: (word ++ rest)) = none := if_neg differs
      rw [keywordFirst?, List.cons_append, absent]
      rfl
  rw [header?, named, keyword]
  rfl

/-- A line that includes a file can be taken apart. -/
theorem exists_operationOf_of_include (isMacro : Text → Bool)
    (trimmed : Text.IsTrimmed (word ++ rest)) :
    ∃ operation,
      Line.operationOf isMacro (Line.labelAndCode (word ++ rest)).2 = .ok operation := by
  have small : ("include" : Text).all Char.isLower = true := by decide
  rw [leads.labelAndCode small (by decide)]
  refine Line.exists_operationOf isMacro ?_
  rw [leads.splitMnemonic small trimmed]
  have folded := leads.folded
  have letters := leads.letters small
  cases word with
  | nil => cases folded
  | cons c word =>
    have capitals : ∀ c ∈ Text.letters, Text.fold c = 'i' →
        (Text.Case.capital c).head? = some 'I' ∨ (Text.Case.capital c).head? = some 'İ' :=
      Text.forall_mem_of_all (by decide)
    intro same
    have first : (Text.upper (c :: word)).head? = some 'D' := by rw [same]; rfl
    rw [Text.upper, List.flatMap_cons, List.head?_append] at first
    rcases capitals c (Text.mem_letters (letters c List.mem_cons_self)) (List.cons.inj folded).1
      with capital | capital
    · rw [capital, Option.some_or] at first
      exact absurd first (by decide)
    · rw [capital, Option.some_or] at first
      exact absurd first (by decide)

end Inclusion

/-! ## The meaning of a line -/

/-- A macro ends on a line when it ends on the code of the line. -/
theorem isMacroEnd_trim (text : Text) : isMacroEnd (Text.trim text) = isMacroEnd (codeOf text) := by
  obtain ⟨remark, follows, whole⟩ := Line.trim_eq_codeOf_append text
  rw [whole, isMacroEnd_append follows]

/-- A macro begins on a line when it begins on the code of the line. -/
theorem header?_trim (text : Text) : header? (Text.trim text) = header? (codeOf text) := by
  obtain ⟨remark, follows, whole⟩ := Line.trim_eq_codeOf_append text
  rw [whole, header?_append follows]

/-- A line that begins a macro includes no file. -/
theorem landmark?_eq_header_iff {text name : Text} :
    landmark? (Text.trim text) = some (.header name) ↔ header? (codeOf text) = some name := by
  obtain ⟨remark, follows, whole⟩ := Line.trim_eq_codeOf_append text
  rw [landmark?, header?_trim, whole]
  cases included : inclusion? (codeOf text ++ remark) with
  | none => cases header? (codeOf text) <;> cases label? (codeOf text ++ remark) <;> simp
  | some target =>
    obtain ⟨word, rest, code, leads⟩ := leads_of_inclusion? follows included
    rw [code, header?_of_include leads]
    simp

/-- What the code of a line means to a scan that looks for no included files. -/
def cueOfCode (isMacro : Text → Bool) (code : Text) : Cue :=
  match header? code with
  | some name => .header (Text.upper name)
  | none =>
    if (label? code).isSome then .quiet
    else match Line.operationOf isMacro (Line.labelAndCode code).2 with
      | .error error => .fails error
      | .ok _ => .quiet

/-- A line means to a scan what its code means. -/
theorem cue_eq (isMacro : Text → Bool) (number : Int) (text : Text) :
    cue isMacro number text = cueOfCode isMacro (codeOf text) := by
  obtain ⟨remark, follows, whole⟩ := Line.trim_eq_codeOf_append text
  rw [cue, landmark?, header?_trim, whole, Line.parse_eq, cueOfCode]
  cases included : inclusion? (codeOf text ++ remark) with
  | some target =>
    have trimmed := Text.isTrimmed_trim (Line.codePart text)
    rw [← codeOf] at trimmed
    obtain ⟨word, rest, code, leads⟩ := leads_of_inclusion? follows included
    rw [code] at trimmed ⊢
    obtain ⟨operation, read⟩ := exists_operationOf_of_include leads isMacro trimmed
    rw [header?_of_include leads, read]
    simp
  | none =>
    cases header? (codeOf text) with
    | some name => rfl
    | none =>
      rcases label?_append follows (codeOf text) with same | ⟨labelled, codeless⟩
      · rw [same]
        cases label? (codeOf text) <;>
          cases Line.operationOf isMacro (Line.labelAndCode (codeOf text)).2 <;> rfl
      · rw [codeless, labelled]
        cases label? (codeOf text ++ remark) <;> rfl

/-! ## Lines with the same code -/

/-- The lines have the same code. -/
def SameCode (line other : Text) : Prop :=
  codeOf line = codeOf other

end Scan

/-- The view that sees neither comments nor lines as written. -/
def View.uncommented : View := ⟨id, fun _ => [], fun _ => none⟩

/-- Lines with the same code differ in their comments only. -/
theorem View.indifferent_uncommented : View.uncommented.Indifferent Scan.SameCode where
  parse {first second} same isMacro number := by
    refine Parallel.of_map_eq ?_
    rw [Line.parse_eq, Line.parse_eq, same]
    cases Line.operationOf isMacro (Line.labelAndCode (Line.codeOf second)).2 <;> rfl
  cue {first second} same isMacro number := by
    rw [Scan.cue_eq, Scan.cue_eq, same]
  isMacroEnd {first second} same := by
    rw [Scan.isMacroEnd_trim, Scan.isMacroEnd_trim, same]
  lookup {operands others} spelled table mnemonic := by
    simp only [View.uncommented, List.map_id] at spelled
    rw [spelled]

end Sm83Cost
