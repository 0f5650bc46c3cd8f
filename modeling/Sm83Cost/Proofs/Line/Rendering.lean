import Sm83Cost.Proofs.Line.Operands

/-!
# Lines written out again

A line that was taken apart can be written out again: its label with a colon, its
mnemonic, its operands with commas between them, and its comment behind a
semicolon, with one blank between these parts.  Reading that text gives the same
line (`parse_rendered`), whatever the first text was like: quotes that are not
closed, brackets that do not match, empty operands, labels with or without colons.

Mnemonics are written in capitals, and the first text has to have its mnemonic in
ASCII.  The Greek iota below a letter is part of no word, but its capital is: behind
it a colon that was part of the mnemonic may make a label.
-/

namespace Sm83Cost

set_option autoImplicit false

open Text (asciiUpper)
open Line.Nesting

/-! ## Writing a line -/

/-- The mnemonic, and the operands with commas between them if there are any. -/
def Operation.parts (operation : Operation) : List Text :=
  operation.mnemonic ::
    if operation.operands = [] then [] else [Text.joined ", " operation.operands]

/-- The label with a colon, if there is one, and the parts of the operation. -/
def Line.codeParts (line : Line) : List Text :=
  (line.label.map (· ++ [':'])).toList ++ line.operation.elim [] Operation.parts

/-- The line written with one blank between its parts. -/
def Line.rendered (line : Line) : Text :=
  Text.joined " " (line.codeParts ++ (line.comment.map (';' :: ·)).toList)

namespace Line

/-! ## Labels -/

theorem stop_of_apart {tail : Text} (apart : tail.head?.all Text.isBlank = true) {p : Char → Bool}
    (blanks : ∀ c, Text.isBlank c = true → p c = false) : tail.head?.any p = false := by
  cases tail with
  | nil => rfl
  | cons c rest => exact blanks c apart

theorem dropColons_append {tail : Text} (apart : tail.head?.all Text.isBlank = true)
    (count : Nat) (text : Text) :
    dropColons count (text ++ tail) = dropColons count text ++ tail := by
  induction count generalizing text with
  | zero => rfl
  | succ count ih =>
    cases text with
    | nil =>
      cases tail with
      | nil => rfl
      | cons c rest =>
        have other : c ≠ ':' := (Text.plain_of_isBlank apart).2.2.1
        exact dropColons_of_ne other (count + 1) rest
    | cons c rest =>
      by_cases colon : c = ':'
      · subst colon
        exact ih rest
      · rw [List.cons_append, dropColons_of_ne colon, dropColons_of_ne colon]
        rfl

theorem exists_dropColons (count : Nat) (text : Text) :
    ∃ colons, (∀ c ∈ colons, c = ':') ∧ text = colons ++ dropColons count text := by
  induction count generalizing text with
  | zero => exact ⟨[], nofun, rfl⟩
  | succ count ih =>
    cases text with
    | nil => exact ⟨[], nofun, rfl⟩
    | cons c rest =>
      by_cases colon : c = ':'
      · subst colon
        obtain ⟨colons, all, whole⟩ := ih rest
        refine ⟨':' :: colons, ?_, congrArg (':' :: ·) whole⟩
        exact List.forall_mem_cons.2 ⟨rfl, all⟩
      · exact ⟨[], nofun, (dropColons_of_ne colon (count + 1) rest).symm⟩

/-- A character of a local label. -/
def inLocalName (c : Char) : Bool := Text.isWord c || c == '.'

/-- A label without colons: a word, or a point and a local name. -/
inductive IsLabel : Text → Prop where
  | word {name : Text} (some : name ≠ []) (letters : ∀ c ∈ name, Text.isWord c = true) :
      IsLabel name
  | point {name : Text} (some : name ≠ []) (letters : ∀ c ∈ name, inLocalName c = true) :
      IsLabel ('.' :: name)

theorem splitLabel?_point (rest : Text) :
    splitLabel? ('.' :: rest) =
      if (rest.takeWhile inLocalName).isEmpty then none
      else some ('.' :: rest.takeWhile inLocalName, dropColons 2 (rest.dropWhile inLocalName)) :=
  rfl

/-- Code that begins with a label is that label, colons and the rest. -/
theorem splitLabel?_eq_some {code label rest : Text} (split : splitLabel? code = some (label, rest)) :
    IsLabel label ∧ ∃ colons, (∀ c ∈ colons, c = ':') ∧ code = label ++ (colons ++ rest) := by
  cases code with
  | nil => cases split
  | cons c more =>
    by_cases point : c = '.'
    · subst point
      rw [splitLabel?_point] at split
      split at split
      · cases split
      · rename_i some
        cases split
        obtain ⟨colons, all, whole⟩ := exists_dropColons 2 (more.dropWhile inLocalName)
        refine ⟨.point (by simpa using some) fun _ => List.mem_takeWhile_imp, colons, all, ?_⟩
        rw [← whole, List.cons_append, List.takeWhile_append_dropWhile]
    · rw [splitLabel?_of_ne point] at split
      have whole := List.takeWhile_append_dropWhile (p := Text.isWord) (l := c :: more)
      have letters : ∀ d ∈ (c :: more).takeWhile Text.isWord, Text.isWord d = true :=
        fun _ => List.mem_takeWhile_imp
      generalize (c :: more).takeWhile Text.isWord = name at split whole letters
      generalize (c :: more).dropWhile Text.isWord = behind at split whole
      split at split
      · cases split
      · rename_i name behind some
        cases split
        obtain ⟨colons, all, after⟩ := exists_dropColons 1 behind
        refine ⟨.word (fun empty => some empty) letters, ':' :: colons, ?_, ?_⟩
        · exact List.forall_mem_cons.2 ⟨rfl, all⟩
        · rw [← whole, List.cons_append, ← after]
      · cases split

/-- A label with a colon is read as that label, and one more colon is dropped. -/
theorem IsLabel.splitLabel?_colon {label : Text} (is : IsLabel label) (tail : Text) :
    splitLabel? (label ++ ':' :: tail) = some (label, dropColons 1 tail) := by
  have colon : ∀ {p : Char → Bool} {name : Text}, (∀ c ∈ name, p c = true) → p ':' = false →
      (name ++ ':' :: tail).takeWhile p = name ∧
        (name ++ ':' :: tail).dropWhile p = ':' :: tail := by
    intro p name letters other
    have stop : (':' :: tail).head?.any p = false := other
    rw [Text.takeWhile_append_of_head? stop, Text.dropWhile_append_of_head? stop,
      List.takeWhile_eq_self_iff.2 letters, List.dropWhile_eq_nil_iff.2 letters]
    exact ⟨rfl, rfl⟩
  cases is with
  | @point name some letters =>
    obtain ⟨taken, left⟩ := colon letters (by decide)
    rw [List.cons_append, splitLabel?_point, taken, left, if_neg (by simpa using some)]
    rfl
  | @word _ some letters =>
    obtain ⟨taken, left⟩ := colon letters (by decide +kernel)
    obtain ⟨c, more, rfl⟩ := List.exists_cons_of_ne_nil some
    have global : c ≠ '.' := by
      rintro rfl
      exact absurd (letters '.' List.mem_cons_self) (by decide +kernel)
    rw [List.cons_append] at taken left ⊢
    rw [splitLabel?_of_ne global, taken, left]
    rfl

/-- A label with a colon and a blank or nothing behind it is read as that label. -/
theorem IsLabel.splitLabel? {label : Text} (is : IsLabel label) {tail : Text}
    (apart : tail.head?.all Text.isBlank = true) :
    splitLabel? (label ++ ':' :: tail) = some (label, tail) := by
  have rest : dropColons 1 tail = tail := by simpa [dropColons] using dropColons_append apart 1 []
  rw [is.splitLabel?_colon, rest]

/-- What stands behind a blank does not make a label. -/
theorem splitLabel?_append {tail : Text} (apart : tail.head?.all Text.isBlank = true)
    (text : Text) :
    splitLabel? (text ++ tail) =
      (splitLabel? text).map fun parts => (parts.1, parts.2 ++ tail) := by
  have words := stop_of_apart apart fun c blank => (Text.plain_of_isBlank blank).1
  have point : ∀ c, Text.isBlank c = true → (c == '.') = false := by
    intro c blank
    rw [beq_eq_false_iff_ne]
    rintro rfl
    exact absurd blank (by decide)
  cases text with
  | nil =>
    cases tail with
    | nil => rfl
    | cons c rest =>
      have global : c ≠ '.' := beq_eq_false_iff_ne.1 (point c apart)
      rw [List.nil_append, splitLabel?_of_ne global, Text.takeWhile_of_head? words]
      rfl
  | cons c rest =>
    by_cases local? : c = '.'
    · subst local?
      have stop : tail.head?.any inLocalName = false := stop_of_apart apart fun c blank => by
        rw [inLocalName, (Text.plain_of_isBlank blank).1, point c blank]
        rfl
      rw [List.cons_append, splitLabel?_point, splitLabel?_point,
        Text.takeWhile_append_of_head? stop, Text.dropWhile_append_of_head? stop,
        dropColons_append apart]
      split <;> rfl
    · have taken := Text.takeWhile_append_of_head? words (c :: rest)
      have left := Text.dropWhile_append_of_head? words (c :: rest)
      rw [List.cons_append] at taken left ⊢
      rw [splitLabel?_of_ne local?, splitLabel?_of_ne local?, taken, left]
      generalize (c :: rest).takeWhile Text.isWord = name
      generalize (c :: rest).dropWhile Text.isWord = behind
      cases name with
      | nil => rfl
      | cons first name =>
        cases behind with
        | nil =>
          cases tail with
          | nil => rfl
          | cons d more =>
            have other : d ≠ ':' := (Text.plain_of_isBlank apart).2.2.1
            simp [other]
        | cons d more =>
          by_cases colon : d = ':'
          · subst colon
            exact congrArg (fun text => some (first :: name, text)) (dropColons_append apart 1 more)
          · simp [colon]

/-! ## Mnemonics -/

/-- The mnemonic of the line as it is written. -/
def writtenMnemonic (raw : Text) : Text :=
  (splitMnemonic (labelAndCode (codeOf raw)).2).1

/-- The word is a mnemonic, and what follows it is cut off. -/
structure Mnemonic (word rest : Text) : Prop where
  nonempty : word ≠ []
  trimmed : Text.IsTrimmed word
  passes : Passes atBlank {} word
  apart : rest.head?.all Text.isBlank = true
  closed : rest ≠ [] → word.foldl step {} = {}

theorem Mnemonic.splitMnemonic {word rest : Text} (begins : Mnemonic word rest)
    (trimmed : Text.IsTrimmed (word ++ rest)) :
    splitMnemonic (word ++ rest) = (word, Text.trim rest) := by
  have cut : breakAt atBlank {} (word ++ rest) = (word, rest) := by
    cases rest with
    | nil => rw [List.append_nil, begins.passes.breakAt_eq]
    | cons c more =>
      refine breakAt_append_of_stop begins.passes ?_ more
      rw [begins.closed (List.cons_ne_nil c more), atBlank]
      exact begins.apart
  rw [Line.splitMnemonic, Text.trim_of_isTrimmed trimmed]
  show ((breakAt atBlank {} (word ++ rest)).1, Text.trim (breakAt atBlank {} (word ++ rest)).2) = _
  rw [cut]

/-- A word behind which nothing is open does not end in a blank that should have ended it. -/
theorem getLast?_of_closed {word : Text} (passes : Passes atBlank {} word)
    (closed : word.foldl step {} = {}) : word.getLast?.any Text.isBlank = false := by
  rcases List.eq_nil_or_concat word with rfl | ⟨front, last, rfl⟩
  · rfl
  · rw [List.concat_eq_append] at passes closed ⊢
    rw [List.getLast?_concat, Option.any_some]
    by_contra blank
    rw [Bool.not_eq_false] at blank
    have before : front.foldl step {} = {} := by
      rw [List.foldl_append] at closed
      exact (step_of_isInert (proper_start.foldl_step front) (isInert_of_isBlank blank)).symm.trans
        closed
    have passed := (passes_append.1 passes).2
    rw [before, passes_cons, atBlank, blank] at passed
    exact Bool.false_ne_true passed.1.symm

/-- Code begins with a mnemonic. -/
theorem exists_mnemonic {code : Text} (trimmed : Text.IsTrimmed code) (some : code ≠ []) :
    ∃ word rest, code = word ++ rest ∧ Mnemonic word rest := by
  have whole := breakAt_append atBlank {} code
  have passes : Passes atBlank {} (breakAt atBlank {} code).1 := passes_breakAt code
  have top : ∀ c rest, (breakAt atBlank {} code).2 = c :: rest →
      (breakAt atBlank {} code).1.foldl step {} = {} ∧ Text.isBlank c = true := by
    intro c rest behind
    have stops := stop_after_breakAt behind
    rw [atBlank, Bool.and_eq_true] at stops
    exact ⟨eq_start_of_isTop stops.1, stops.2⟩
  have first : (breakAt atBlank {} code).1 ≠ [] := by
    obtain ⟨c, rest, rfl⟩ := List.exists_cons_of_ne_nil some
    have begins : atBlank {} c = false := trimmed.1
    simp [breakAt, begins]
  generalize (breakAt atBlank {} code).1 = word at whole passes top first
  generalize (breakAt atBlank {} code).2 = rest at whole top
  subst whole
  refine ⟨word, rest, rfl, first, ?_, passes, ?_, ?_⟩
  · cases rest with
    | nil => rwa [List.append_nil] at trimmed
    | cons c more =>
      refine ⟨?_, getLast?_of_closed passes (top c more rfl).1⟩
      obtain ⟨d, letters, rfl⟩ := List.exists_cons_of_ne_nil first
      exact trimmed.1
  · cases rest with
    | nil => rfl
    | cons c more => exact (top c more rfl).2
  · intro more
    obtain ⟨c, others, rfl⟩ := List.exists_cons_of_ne_nil more
    exact (top c others rfl).1

/-- A mnemonic in capitals is a mnemonic. -/
theorem Mnemonic.asciiUpper {word rest tail : Text} (begins : Mnemonic word rest)
    (apart : tail.head?.all Text.isBlank = true) (closed : tail ≠ [] → rest ≠ []) :
    Mnemonic (asciiUpper word) tail where
  nonempty := by simpa [Text.asciiUpper] using begins.nonempty
  trimmed := Text.isTrimmed_asciiUpper begins.trimmed
  passes := begins.passes.asciiUpper
    (fun nesting c => congrArg (nesting.isTop && ·) (Text.caseBlind_isBlank c)) proper_start
  apart := apart
  closed := fun more => by rw [foldl_step_asciiUpper proper_start, begins.closed (closed more)]

theorem Respaced.asciiUpper (text : Text) : Respaced text (asciiUpper text) where
  nesting := foldl_step_asciiUpper proper_start text
  passes := fun passes => passes.asciiUpper
    (fun nesting c => congrArg (nesting.quote.isNone && ·) (Text.caseBlind_beq rfl c)) proper_start

/-! ## Operations -/

/-- What is written behind a mnemonic: nothing, or a blank and the operands. -/
def operandTail (operands : List Text) : Text :=
  if operands = [] then [] else ' ' :: Text.joined ", " operands

theorem apart_operandTail (operands : List Text) :
    (operandTail operands).head?.all Text.isBlank = true := by
  rw [operandTail]
  split <;> rfl

/-- The operands are found behind the mnemonic. -/
theorem splitOperands_operandTail (text : Text) :
    splitOperands (Text.trim (operandTail (splitOperands text))) = splitOperands text := by
  have list := operandList_splitOperands text
  rw [operandTail]
  split
  · rename_i none
    rw [none]
    rfl
  · rw [Text.trim_cons_of_isBlank (by decide), Text.trim_of_isTrimmed list.joined_trimmed,
      splitOperands_joined list]

/-- What is written behind a mnemonic is what stood there, with other spacing. -/
theorem respaced_operandTail (rest : Text) :
    Respaced rest (operandTail (splitOperands (Text.trim rest))) := by
  have joined := (Respaced.trim rest).trans (respaced_joined (Text.trim rest))
  rw [operandTail]
  split
  · rename_i none
    rwa [none] at joined
  · exact joined.blank

/-- The second text can stand for the code: it has the same operation, no label that the code does
not have, and the same quotes, brackets and comments. -/
structure StandsFor (isMacro : Text → Bool) (code other : Text) : Prop where
  nonempty : other ≠ []
  trimmed : Text.IsTrimmed other
  respaced : Respaced code other
  unlabelled : splitLabel? code = none → splitLabel? other = none
  operation : operationOf isMacro other = operationOf isMacro code

/-- A mnemonic may be written in capitals, and its operands with other spacing. -/
theorem Mnemonic.standsFor {word rest : Text} (begins : Mnemonic word rest)
    (trimmed : Text.IsTrimmed (word ++ rest)) (isMacro : Text → Bool) :
    StandsFor isMacro (word ++ rest)
      (Text.asciiUpper word ++ operandTail (splitOperands (Text.trim rest))) := by
  have list := operandList_splitOperands (Text.trim rest)
  have found := splitOperands_operandTail (Text.trim rest)
  have respaced := respaced_operandTail rest
  have apart := apart_operandTail (splitOperands (Text.trim rest))
  have closed : operandTail (splitOperands (Text.trim rest)) ≠ [] → rest ≠ [] := by
    rintro some rfl
    exact some rfl
  have capital : Mnemonic (Text.asciiUpper word) _ := begins.asciiUpper apart closed
  have ends : Text.IsTrimmed
      (Text.asciiUpper word ++ operandTail (splitOperands (Text.trim rest))) := by
    rw [operandTail]
    split
    · rw [List.append_nil]
      exact capital.trimmed
    · rename_i some
      exact capital.trimmed.append capital.nonempty list.joined_trimmed (list.joined_ne_nil some)
        [' ']
  refine ⟨by simp [capital.nonempty], ends, ?_, ?_, ?_⟩
  · by_cases alone : rest = []
    · subst alone
      have nothing : operandTail (splitOperands (Text.trim [])) = [] := rfl
      rw [nothing, List.append_nil, List.append_nil]
      exact .asciiUpper word
    · exact (Respaced.asciiUpper word).append (begins.closed alone) respaced
  · intro unlabelled
    rw [splitLabel?_append begins.apart, Option.map_eq_none_iff] at unlabelled
    rw [splitLabel?_append apart, splitLabel?_asciiUpper, unlabelled]
    rfl
  · have here : (word ++ rest).isEmpty = false := by simp [begins.nonempty]
    have there : (Text.asciiUpper word ++ operandTail (splitOperands (Text.trim rest))).isEmpty =
        false := by simp [capital.nonempty]
    rw [operationOf, operationOf, here, there, capital.splitMnemonic ends,
      begins.splitMnemonic trimmed]
    simp only [Text.upper_asciiUpper, found]

theorem joined_parts (operation : Operation) :
    Text.joined " " operation.parts = operation.mnemonic ++ operandTail operation.operands := by
  rw [Operation.parts, operandTail]
  split
  · rw [joined_singleton, List.append_nil]
  · rw [joined_cons_of_ne_nil _ _ (List.cons_ne_nil _ _), joined_singleton, List.append_assoc]
    rfl

/-- An operation that is written out again stands for the code it was read from. -/
theorem standsFor_parts {isMacro : Text → Bool} {code : Text} (trimmed : Text.IsTrimmed code)
    {operation : Operation} (read : operationOf isMacro code = .ok (some operation))
    (ascii : ∀ c ∈ (splitMnemonic code).1, c.toNat < 128) :
    StandsFor isMacro code (Text.joined " " operation.parts) := by
  have some : code ≠ [] := by
    rintro rfl
    cases read
  obtain ⟨word, rest, rfl, begins⟩ := exists_mnemonic trimmed some
  obtain ⟨mnemonic, operands, -⟩ := operationOf_eq_some read
  rw [begins.splitMnemonic trimmed] at mnemonic operands ascii
  rw [joined_parts, mnemonic, operands, Text.upper_of_ascii ascii]
  exact begins.standsFor trimmed isMacro

/-! ## Code and comment -/

/-- No blank is part of a label. -/
theorem IsLabel.full {label : Text} (is : IsLabel label) : ∀ c ∈ label, Text.isBlank c = false := by
  cases is with
  | word some letters => exact fun c member => Text.isBlank_of_isWord (letters c member)
  | point some letters =>
    refine List.forall_mem_cons.2 ⟨by decide, fun c member => ?_⟩
    have letter := letters c member
    rw [inLocalName, Bool.or_eq_true, beq_iff_eq] at letter
    rcases letter with letter | rfl
    · exact Text.isBlank_of_isWord letter
    · decide

theorem IsLabel.trimmed {label : Text} (is : IsLabel label) : Text.IsTrimmed (label ++ [':']) := by
  have colon : ∀ c ∈ [':'], Text.isBlank c = false := Text.forall_mem_of_all (by decide)
  exact Text.isTrimmed_of_forall (List.forall_mem_append.2 ⟨is.full, colon⟩)

/-- Labels open and close nothing, and no comment begins in them. -/
theorem IsLabel.inert {label : Text} (is : IsLabel label) :
    ∀ c ∈ label, isInert c = true ∧ c ≠ ';' := by
  have word : ∀ c, Text.isWord c = true → isInert c = true ∧ c ≠ ';' := by
    intro c letter
    refine ⟨isInert_of_isWord letter, ?_⟩
    rintro rfl
    exact absurd letter (by decide +kernel)
  have point : isInert '.' = true ∧ '.' ≠ ';' := by decide
  cases is with
  | word some letters => exact fun c member => word c (letters c member)
  | point some letters =>
    refine List.forall_mem_cons.2 ⟨point, fun c member => ?_⟩
    have letter := letters c member
    rw [inLocalName, Bool.or_eq_true, beq_iff_eq] at letter
    rcases letter with letter | rfl
    · exact word c letter
    · exact point

/-- The second text is trimmed code with the same label, operation, quotes, brackets and comments
as the first one. -/
structure SameCode (isMacro : Text → Bool) (code other : Text) : Prop where
  trimmed : Text.IsTrimmed other
  respaced : Respaced code other
  label : (labelAndCode other).1 = (labelAndCode code).1
  operation : operationOf isMacro (labelAndCode other).2 = operationOf isMacro (labelAndCode code).2

/-- A label with a colon and an operation behind a blank, or with nothing behind it, is code with
that label and that operation. -/
theorem sameCode_of_label {isMacro : Text → Bool} {code label rest : Text}
    (split : splitLabel? code = some (label, rest)) {tail : Text}
    (apart : tail.head?.all Text.isBlank = true) (respaced : Respaced (Text.trim rest) tail)
    (trimmed : Text.IsTrimmed (label ++ ':' :: tail))
    (operation : operationOf isMacro (Text.trim tail) = operationOf isMacro (Text.trim rest)) :
    SameCode isMacro code (label ++ ':' :: tail) := by
  obtain ⟨is, colons, all, rfl⟩ := splitLabel?_eq_some split
  have here : labelAndCode (label ++ (colons ++ rest)) = (some label, Text.trim rest) := by
    rw [labelAndCode, split]
  have there : labelAndCode (label ++ ':' :: tail) = (some label, Text.trim tail) := by
    rw [labelAndCode, is.splitLabel? apart]
  refine ⟨trimmed, ?_, by rw [here, there], by rw [here, there, operation]⟩
  have marks : ∀ c ∈ label ++ colons, isInert c = true ∧ c ≠ ';' := by
    intro c member
    rcases List.mem_append.1 member with letter | colon
    · exact is.inert c letter
    · rw [all c colon]
      decide
  have marked : ∀ c ∈ label ++ [':'], isInert c = true ∧ c ≠ ';' := by
    intro c member
    rcases List.mem_append.1 member with letter | colon
    · exact is.inert c letter
    · rw [List.mem_singleton.1 colon]
      decide
  have shut : (label ++ colons).foldl step {} = {} :=
    foldl_step_of_isInert proper_start fun c member => (marks c member).1
  have whole := (Respaced.inert marks marked).append shut ((Respaced.trim rest).trans respaced)
  rwa [List.append_assoc, List.append_assoc, List.singleton_append] at whole

theorem sameCode_of_standsFor {isMacro : Text → Bool} {code other : Text}
    (unlabelled : splitLabel? code = none) (stands : StandsFor isMacro code other) :
    SameCode isMacro code other := by
  have here : labelAndCode code = (none, code) := by rw [labelAndCode, unlabelled]
  have there : labelAndCode other = (none, other) := by
    rw [labelAndCode, stands.unlabelled unlabelled]
  exact ⟨stands.trimmed, stands.respaced, by rw [here, there],
    by rw [here, there, stands.operation]⟩

/-- The code of a line that is written out again is the code of the line. -/
theorem sameCode_codeParts {isMacro : Text → Bool} {code : Text} (trimmed : Text.IsTrimmed code)
    {line : Line} (labelled : line.label = (labelAndCode code).1)
    (read : operationOf isMacro (labelAndCode code).2 = .ok line.operation)
    (ascii : ∀ c ∈ (splitMnemonic (labelAndCode code).2).1, c.toNat < 128) :
    SameCode isMacro code (Text.joined " " line.codeParts) := by
  rw [codeParts, labelled]
  cases split : splitLabel? code with
  | none =>
    rw [labelAndCode, split] at read ascii ⊢
    cases holds : line.operation with
    | none =>
      rw [holds] at read
      obtain rfl := eq_nil_of_operationOf read
      exact ⟨trimmed, .refl [], rfl, rfl⟩
    | some operation =>
      rw [holds] at read
      exact sameCode_of_standsFor split (standsFor_parts trimmed read ascii)
  | some parts =>
    obtain ⟨label, rest⟩ := parts
    have is := (splitLabel?_eq_some split).1
    rw [labelAndCode, split] at read ascii ⊢
    cases holds : line.operation with
    | none =>
      rw [holds] at read
      have empty : Text.trim rest = [] := eq_nil_of_operationOf read
      have text : Text.joined " " [label ++ [':']] = label ++ ':' :: [] := joined_singleton _ _
      refine text ▸ sameCode_of_label split rfl ?_ is.trimmed ?_
      · exact empty ▸ .refl []
      · rw [empty]
        rfl
    | some operation =>
      rw [holds] at read
      have stands := standsFor_parts (Text.isTrimmed_trim rest) read ascii
      have text : Text.joined " " ((label ++ [':']) :: operation.parts) =
          label ++ ':' :: ' ' :: Text.joined " " operation.parts := by
        have some : operation.parts ≠ [] := List.cons_ne_nil _ _
        rw [joined_cons_of_ne_nil _ _ some]
        simp
      refine text ▸ sameCode_of_label split rfl ?_ ?_ ?_
      · exact stands.respaced.blank
      · have ends := is.trimmed.append (by simp) stands.trimmed stands.nonempty [' ']
        rwa [List.append_assoc, List.singleton_append] at ends
      · rw [Text.trim_cons_of_isBlank (by decide), Text.trim_of_isTrimmed stands.trimmed,
          stands.operation]

theorem joined_append_singleton (separator : Text) {pieces : List Text} (some : pieces ≠ [])
    (last : Text) :
    Text.joined separator (pieces ++ [last]) = Text.joined separator pieces ++ separator ++ last := by
  induction pieces with
  | nil => exact absurd rfl some
  | cons piece rest ih =>
    by_cases alone : rest = []
    · subst alone
      rw [List.singleton_append, joined_cons_of_ne_nil _ _ (List.cons_ne_nil _ _),
        joined_singleton, joined_singleton]
    · rw [List.cons_append, joined_cons_of_ne_nil _ _ (by simp), ih alone,
        joined_cons_of_ne_nil _ _ alone]
      simp only [List.append_assoc]

/-- A comment is written behind the code, with a blank before it if there is any code. -/
theorem rendered_eq_append (line : Line) :
    ∃ gap, (∀ c ∈ gap, Text.isBlank c = true) ∧
      line.rendered = Text.joined " " line.codeParts ++
        line.comment.elim [] fun comment => gap ++ ';' :: comment := by
  rw [rendered]
  cases line.comment with
  | none => exact ⟨[], nofun, by simp⟩
  | some comment =>
    by_cases none : line.codeParts = []
    · exact ⟨[], nofun, by simp [none]⟩
    · refine ⟨[' '], Text.forall_mem_of_all (by decide), ?_⟩
      rw [Option.map_some, Option.toList_some, joined_append_singleton _ none]
      simp

theorem cutComment_of_passes {text : Text} (passes : Passes atComment {} text) :
    cutComment text = (text, []) :=
  passes.breakAt_eq

/-- Code that is written in another way, with the comment of the line behind it, is cut into that
code and that comment. -/
theorem codeOf_and_comment {isMacro : Text → Bool} {raw other gap : Text}
    (same : SameCode isMacro (codeOf raw) other) (blank : ∀ c ∈ gap, Text.isBlank c = true)
    {written : Text}
    (whole : written = other ++ (commentPart? raw).elim [] fun comment => gap ++ ';' :: comment) :
    codeOf written = other ∧ commentPart? written = commentPart? raw := by
  have respaced := (Respaced.trim (codePart raw)).trans same.respaced
  have uncommented : Passes atComment {} (codePart raw) := passes_breakAt raw
  have passes : Passes atComment {} other := respaced.passes uncommented
  rcases cutComment_cases raw with uncommented | ⟨rest, commented⟩
  · have none : commentPart? raw = none := by rw [commentPart?, uncommented]
    rw [none, Option.elim_none, List.append_nil] at whole
    rw [whole, none, codeOf, codePart, commentPart?, cutComment_of_passes passes]
    exact ⟨Text.trim_of_isTrimmed same.trimmed, rfl⟩
  · have comment : commentPart? raw = some (Text.trim rest) := by rw [commentPart?, commented]
    rw [comment, Option.elim_some, ← List.append_assoc] at whole
    have still : (other ++ gap).foldl step {} = other.foldl step {} := by
      rw [List.foldl_append]
      exact foldl_step_of_isInert (proper_start.foldl_step other)
        fun c member => isInert_of_isBlank (blank c member)
    have plain : Passes atComment {} (other ++ gap) := by
      refine passes_append.2 ⟨passes, passes_of_uncommented fun c member => ?_⟩
      exact (Text.plain_of_isBlank (blank c member)).2.2.2
    have cut : cutComment written = (other ++ gap, ';' :: Text.trim rest) := by
      rw [whole]
      refine breakAt_append_of_stop plain ?_ _
      rw [still, respaced.nesting]
      have cut : (breakAt atComment {} raw).2 = ';' :: rest := commented
      exact stop_after_breakAt cut
    rw [comment, codeOf, codePart, commentPart?, cut]
    refine ⟨?_, ?_⟩
    · exact (Text.trim_append_blanks blank other).trans (Text.trim_of_isTrimmed same.trimmed)
    · exact congrArg some (Text.trim_of_isTrimmed (Text.isTrimmed_trim rest))

/-- **A line that is written out again is read as the same line.**  This holds of every text that
can be taken apart and has its mnemonic in ASCII, and with any macros. -/
theorem parse_rendered {isMacro : Text → Bool} {number : Int} {raw : Text} {line : Line}
    (parsed : parse isMacro number raw = .ok line)
    (ascii : ∀ c ∈ writtenMnemonic raw, c.toNat < 128) :
    parse isMacro number line.rendered = .ok { line with raw := line.rendered } := by
  obtain ⟨operation, read, made⟩ := parse_eq_ok.1 parsed
  have label : line.label = (labelAndCode (codeOf raw)).1 := by rw [made]; rfl
  have held : line.operation = operation := by rw [made]
  have remark : line.comment = commentPart? raw := by rw [made]
  have same : SameCode isMacro (codeOf raw) (Text.joined " " line.codeParts) :=
    sameCode_codeParts (Text.isTrimmed_trim _) label (held ▸ read) ascii
  obtain ⟨gap, blank, whole⟩ := rendered_eq_append line
  obtain ⟨code, comment⟩ := codeOf_and_comment same blank (remark ▸ whole)
  refine parse_eq_ok.2 ⟨operation, ?_, ?_⟩
  · rw [← codeOf, code, same.operation]
    exact read
  · rw [← codeOf, code, same.label, comment, ← label, ← remark, ← held, ← number_of_parse parsed]

/-- A local label without a colon, a comma in brackets, empty operands, a semicolon in quotes and
a comment: all of it is found again in the line that is written out. -/
theorem parse_rendered_local_label :
    let raw : Text := " .l.1 Ld  [hl , x],, \"a;b\" , ;  c;d "
    (∃ line, parse (fun _ => false) 7 raw = .ok line ∧
      line.rendered = ".l.1: LD [hl , x], \"a;b\" ;c;d".toList ∧
      (∀ c ∈ writtenMnemonic raw, c.toNat < 128) ∧
      parse (fun _ => false) 7 line.rendered = .ok { line with raw := line.rendered }) := by
  have parsed : parse (fun _ => false) 7 " .l.1 Ld  [hl , x],, \"a;b\" , ;  c;d " =
      .ok { number := 7, raw := " .l.1 Ld  [hl , x],, \"a;b\" , ;  c;d ", label := some ".l.1",
            operation := some ⟨"LD", ["[hl , x]", "\"a;b\""], .instruction⟩,
            comment := some "c;d" } := by decide +kernel
  have ascii : ∀ c ∈ writtenMnemonic " .l.1 Ld  [hl , x],, \"a;b\" , ;  c;d ", c.toNat < 128 :=
    Text.forall_mem_of_all (by decide +kernel)
  exact ⟨_, parsed, by decide +kernel, ascii, parse_rendered parsed ascii⟩

/-- With an iota below its first letter the mnemonic becomes a label once it is in capitals. -/
example : (parse (fun _ => false) 0 ['a', '\u0345', ':', 'b']).map Line.label = .ok none ∧
    (parse (fun _ => false) 0 (Text.upper ['a', '\u0345', ':', 'b'])).map Line.label =
      .ok (some ['A', 'Ι']) := by
  decide +kernel

end Line

end Sm83Cost
