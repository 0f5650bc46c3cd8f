import Sm83Cost.Proofs.Line.Parse
import Sm83Cost.Proofs.Line.View
import Sm83Cost.Proofs.Text.Caseless

/-!
# Lines in any case

A line is taken apart at quotes, brackets, commas, blanks, colons and points,
none of which has a case.  So a line in capitals is taken apart at the same
places, and its parts are the parts of the line in capitals (`parse_asciiUpper`).
Mnemonics are put in capitals anyway, and the landmarks of a scan are recognised
in any case (`landmark?_asciiUpper`).
-/

namespace Sm83Cost

set_option autoImplicit false

open Text (asciiUpper CaseBlind)

/-- The view that does not tell ASCII letters from their capitals. -/
def View.caseless : View := ⟨asciiUpper, asciiUpper, Option.map asciiUpper⟩

namespace Line

/-! ## Quotes and brackets -/

namespace Nesting

theorem caseBlind_isQuote : CaseBlind isQuote := Text.caseBlind_of_letters (by decide)

theorem caseBlind_isOpener : CaseBlind isOpener := Text.caseBlind_of_letters (by decide)

theorem caseBlind_isCloser : CaseBlind isCloser := Text.caseBlind_of_letters (by decide)

/-- What is open is a quote. -/
def Proper (nesting : Nesting) : Prop :=
  ∀ mark, nesting.quote = some mark → isQuote mark = true

theorem proper_start : Proper {} := nofun

theorem Proper.step {nesting : Nesting} (proper : nesting.Proper) (c : Char) :
    (nesting.step c).Proper := by
  intro mark opened
  unfold Nesting.step at opened
  split at opened
  · split at opened
    · cases opened
    · exact proper mark opened
  · rename_i closed
    split at opened
    · rename_i quote
      cases opened
      exact quote
    · split at opened
      · simp [closed] at opened
      · split at opened <;> simp [closed] at opened

/-- The case of a character does not matter to what is open after it. -/
theorem step_toUpper {nesting : Nesting} (proper : nesting.Proper) (c : Char) :
    nesting.step c.toUpper = nesting.step c := by
  have quotes : ∀ mark, isQuote mark = true → mark.isAlpha = false := by
    intro mark quote
    rw [isQuote, Bool.or_eq_true, beq_iff_eq, beq_iff_eq] at quote
    rcases quote with rfl | rfl <;> rfl
  unfold step
  cases opened : nesting.quote with
  | some mark => simp only [Text.toUpper_eq_iff (quotes mark (proper mark opened))]
  | none =>
    simp only [caseBlind_isQuote c, caseBlind_isOpener c, caseBlind_isCloser c]
    split
    · rename_i quote
      rw [(Text.toUpper_eq_iff (quotes c quote) c).2 rfl]
    · rfl

/-- A text in capitals is cut at the same place. -/
theorem breakAt_asciiUpper {stop : Nesting → Char → Bool}
    (blind : ∀ nesting, CaseBlind (stop nesting)) {nesting : Nesting} (proper : nesting.Proper)
    (text : Text) :
    breakAt stop nesting (asciiUpper text) =
      (asciiUpper (breakAt stop nesting text).1, asciiUpper (breakAt stop nesting text).2) := by
  induction text generalizing nesting with
  | nil => rfl
  | cons c rest ih =>
    have others := ih (proper.step c)
    simp only [asciiUpper, List.map_cons] at others ⊢
    simp only [breakAt, blind nesting c, step_toUpper proper c, others]
    split <;> rfl

theorem extendFirst_asciiUpper (c : Char) (pieces : List Text) :
    Text.extendFirst c.toUpper (pieces.map asciiUpper) =
      (Text.extendFirst c pieces).map asciiUpper := by
  cases pieces <;> rfl

theorem pieces_asciiUpper {nesting : Nesting} (proper : nesting.Proper) (text : Text) :
    pieces nesting (asciiUpper text) = (pieces nesting text).map asciiUpper := by
  induction text generalizing nesting with
  | nil => rfl
  | cons c rest ih =>
    have comma : (c.toUpper == ',') = (c == ',') := Text.caseBlind_beq rfl c
    rw [asciiUpper, List.map_cons, ← asciiUpper, pieces, pieces, comma, step_toUpper proper c,
      ih proper, ih (proper.step c)]
    split
    · rfl
    · exact extendFirst_asciiUpper c _

end Nesting

/-! ## The parts of a line -/

theorem cutComment_asciiUpper (line : Text) :
    cutComment (asciiUpper line) =
      (asciiUpper (cutComment line).1, asciiUpper (cutComment line).2) := by
  refine Nesting.breakAt_asciiUpper (fun nesting c => ?_) Nesting.proper_start line
  have mark : (c.toUpper == ';') = (c == ';') := Text.caseBlind_beq rfl c
  rw [mark]

theorem codePart_asciiUpper (line : Text) :
    codePart (asciiUpper line) = asciiUpper (codePart line) := by
  rw [codePart, cutComment_asciiUpper]
  rfl

theorem commentPart?_asciiUpper (line : Text) :
    commentPart? (asciiUpper line) = (commentPart? line).map asciiUpper := by
  rw [commentPart?, commentPart?, cutComment_asciiUpper]
  cases (cutComment line).2 with
  | nil => rfl
  | cons mark comment => exact congrArg some (Text.trim_asciiUpper comment)

theorem splitMnemonic_asciiUpper (code : Text) :
    splitMnemonic (asciiUpper code) =
      (asciiUpper (splitMnemonic code).1, asciiUpper (splitMnemonic code).2) := by
  have blind : ∀ nesting : Nesting, CaseBlind fun c => nesting.isTop && Text.isBlank c :=
    fun nesting c => congrArg (nesting.isTop && ·) (Text.caseBlind_isBlank c)
  simp only [splitMnemonic, Text.trim_asciiUpper,
    Nesting.breakAt_asciiUpper blind Nesting.proper_start]

theorem splitOperands_asciiUpper (text : Text) :
    splitOperands (asciiUpper text) = (splitOperands text).map asciiUpper := by
  rw [splitOperands, splitOperands, Nesting.pieces_asciiUpper Nesting.proper_start, List.map_map,
    List.filter_map, List.filter_map, List.map_map]
  congr 1
  · funext piece
    exact Text.trim_asciiUpper piece
  · congr 1
    funext piece
    simp

theorem dropColons_asciiUpper (count : Nat) (text : Text) :
    dropColons count (asciiUpper text) = asciiUpper (dropColons count text) := by
  induction count generalizing text with
  | zero => rfl
  | succ count ih =>
    cases text with
    | nil => rfl
    | cons c rest =>
      by_cases colon : c = ':'
      · subst colon
        exact ih rest
      · have other : c.toUpper ≠ ':' := fun same => colon ((Text.toUpper_eq_iff rfl c).1 same)
        rw [dropColons_of_ne colon]
        exact dropColons_of_ne other _ _

theorem splitLabel?_asciiUpper (code : Text) :
    splitLabel? (asciiUpper code) =
      (splitLabel? code).map fun parts => (asciiUpper parts.1, asciiUpper parts.2) := by
  cases code with
  | nil => rfl
  | cons c rest =>
    by_cases point : c = '.'
    · subst point
      have blind : CaseBlind fun c => Text.isWord c || c == '.' :=
        Text.caseBlind_of_letters (by decide)
      show splitLabel? ('.' :: asciiUpper rest) = _
      simp only [splitLabel?, Text.takeWhile_asciiUpper blind, Text.dropWhile_asciiUpper blind,
        Text.isEmpty_asciiUpper, dropColons_asciiUpper]
      split <;> rfl
    · have other : c.toUpper ≠ '.' := fun same => point ((Text.toUpper_eq_iff rfl c).1 same)
      have whole : c.toUpper :: asciiUpper rest = asciiUpper (c :: rest) := rfl
      rw [splitLabel?_of_ne point, ← whole, splitLabel?_of_ne other, whole,
        Text.takeWhile_asciiUpper Text.caseBlind_isWord,
        Text.dropWhile_asciiUpper Text.caseBlind_isWord]
      generalize (c :: rest).takeWhile Text.isWord = name
      generalize (c :: rest).dropWhile Text.isWord = behind
      cases name with
      | nil => rfl
      | cons first name =>
        cases behind with
        | nil => rfl
        | cons mark more =>
          by_cases colon : mark = ':'
          · subst colon
            exact congrArg some (Prod.ext rfl (dropColons_asciiUpper 1 more))
          · have unlike : mark.toUpper ≠ ':' := fun same =>
              colon ((Text.toUpper_eq_iff rfl mark).1 same)
            simp [asciiUpper, colon, unlike]

theorem labelAndCode_asciiUpper (code : Text) :
    labelAndCode (asciiUpper code) =
      ((labelAndCode code).1.map asciiUpper, asciiUpper (labelAndCode code).2) := by
  rw [labelAndCode, labelAndCode, splitLabel?_asciiUpper]
  cases splitLabel? code with
  | none => rfl
  | some parts => exact Prod.ext rfl (Text.trim_asciiUpper parts.2)

/-! ## Sizes of data -/

theorem byteCount_asciiUpper (item : Text) : byteCount (asciiUpper item) = byteCount item := by
  have quote : ∀ end? : Option Char, end?.map Char.toUpper = some '"' ↔ end? = some '"' := by
    intro end?
    cases end? with
    | none => simp
    | some c => simpa using Text.toUpper_eq_iff rfl c
  have first : (asciiUpper item).head? = some '"' ↔ item.head? = some '"' := by
    rw [asciiUpper, List.head?_map, quote]
  have last : (asciiUpper item).getLast? = some '"' ↔ item.getLast? = some '"' := by
    rw [asciiUpper, List.getLast?_map, quote]
  simp only [byteCount, Text.length_asciiUpper, first, last]

end Line

/-! ## Numbers -/

theorem Numeral.digit?_toUpper (base : Nat) : CaseBlind (Numeral.digit? base) := by
  intro c
  have value : CaseBlind fun c : Char =>
      if 'a' ≤ c && c ≤ 'f' then some (c.toNat - 'a'.toNat + 10)
      else if 'A' ≤ c && c ≤ 'F' then some (c.toNat - 'A'.toNat + 10)
      else Text.decimalDigit? c := Text.caseBlind_of_letters (by decide)
  exact congrArg (Option.filter fun digit => decide (digit < base)) (value c)

namespace Literal

theorem caseBlind_isDigit (base : Nat) : CaseBlind (isDigit base) := by
  intro c
  have alphanumeric : CaseBlind Char.isAlphanum := Text.caseBlind_of_letters (by decide)
  rw [isDigit, isDigit, alphanumeric c, Numeral.digit?_toUpper base c]

theorem leadingDigits_asciiUpper (base : Nat) (text : Text) :
    leadingDigits base (asciiUpper text) = leadingDigits base text := by
  rw [leadingDigits, leadingDigits, Text.takeWhile_asciiUpper (caseBlind_isDigit base),
    asciiUpper, List.filterMap_map]
  congr 1
  exact funext (Numeral.digit?_toUpper base)

/-- The mark of a base, character by character. -/
theorem announced?_cons (c : Char) (rest : Text) :
    announced? (c :: rest) =
      if c = '$' then some (16, rest)
      else if c = '%' then some (2, rest)
      else if c = '&' then some (8, rest)
      else if c = '0' ∧ rest.head?.any (fun d => d == 'x' || d == 'X') then some (16, rest.drop 1)
      else none := by
  unfold announced?
  split
  all_goals simp_all
  rintro rfl
  cases rest with
  | nil => rfl
  | cons d more => simp_all

theorem announced?_asciiUpper (text : Text) :
    announced? (asciiUpper text) =
      (announced? text).map fun parts => (parts.1, asciiUpper parts.2) := by
  cases text with
  | nil => rfl
  | cons c rest =>
    have letter : CaseBlind fun d => d == 'x' || d == 'X' := Text.caseBlind_of_letters (by decide)
    have behind : (asciiUpper rest).drop 1 = asciiUpper (rest.drop 1) := (List.map_drop ..).symm
    have whole : c.toUpper :: asciiUpper rest = asciiUpper (c :: rest) := rfl
    have plain : ∀ mark ∈ ['$', '%', '&', '0'], mark.isAlpha = false :=
      Text.forall_mem_of_all (by decide)
    have marks : ∀ mark ∈ ['$', '%', '&', '0'], c.toUpper = mark ↔ c = mark :=
      fun mark member => Text.toUpper_eq_iff (plain mark member) c
    simp only [List.forall_mem_cons, List.not_mem_nil, false_imp_iff, implies_true] at marks
    obtain ⟨dollar, percent, ampersand, zero, -⟩ := marks
    rw [← whole, announced?_cons, announced?_cons]
    simp only [dollar, percent, ampersand, zero, Text.any_head?_asciiUpper letter, behind]
    split_ifs <;> rfl

/-- The number at the beginning of an expression does not depend on case. -/
theorem leading_asciiUpper (text : Text) : leading (asciiUpper text) = leading text := by
  rw [leading, leading, Text.trim_asciiUpper, announced?_asciiUpper]
  cases announced? (Text.trim text) with
  | none => exact congrArg Numeral.ofDecimal (leadingDigits_asciiUpper 10 _)
  | some parts => simp only [Option.map_some, leadingDigits_asciiUpper]

end Literal

namespace Line

theorem itemBytes_asciiUpper (directive : Text) (items : List Text) :
    itemBytes directive (items.map asciiUpper) = itemBytes directive items := by
  cases items with
  | nil => rfl
  | cons first rest =>
    simp only [itemBytes, List.map_cons, List.map_map, Function.comp_def, byteCount_asciiUpper,
      List.length_cons, List.length_map, Literal.leading_asciiUpper]

theorem roleOf_asciiUpper (isMacro : Text → Bool) (mnemonic : Text) (operands : List Text) :
    roleOf isMacro mnemonic (operands.map asciiUpper) = roleOf isMacro mnemonic operands := by
  have other : isOtherDirective mnemonic (operands.map asciiUpper) =
      isOtherDirective mnemonic operands := by
    rw [isOtherDirective, isOtherDirective, List.length_map]
  rw [roleOf, roleOf, itemBytes_asciiUpper, other]

/-! ## Whole lines -/

theorem operationOf_asciiUpper (isMacro : Text → Bool) (code : Text) :
    operationOf isMacro (asciiUpper code) =
      (operationOf isMacro code).map (Option.map (Operation.seen .caseless)) := by
  simp only [operationOf, Text.isEmpty_asciiUpper, splitMnemonic_asciiUpper,
    splitOperands_asciiUpper, Text.upper_asciiUpper, roleOf_asciiUpper]
  split
  · rfl
  · cases roleOf isMacro (Text.upper (splitMnemonic code).1)
      (splitOperands (splitMnemonic code).2) <;> rfl

/-- A line in capitals is taken apart into the same parts in capitals. -/
theorem parse_asciiUpper (isMacro : Text → Bool) (number : Int) (raw : Text) :
    parse isMacro number (asciiUpper raw) =
      (parse isMacro number raw).map (Line.seen .caseless) := by
  simp only [parse, codePart_asciiUpper, Text.trim_asciiUpper, labelAndCode_asciiUpper,
    operationOf_asciiUpper, commentPart?_asciiUpper]
  cases operationOf isMacro (labelAndCode (Text.trim (codePart raw))).2 <;> rfl

end Line

/-! ## Landmarks -/

namespace Scan

/-- A landmark with what it names in capitals. -/
def Landmark.asciiUpper : Landmark → Landmark
  | .inclusion target => .inclusion (Text.asciiUpper target)
  | .header name => .header (Text.asciiUpper name)
  | .label name => .label (Text.asciiUpper name)

theorem isWordEnd_asciiUpper (rest : Text) : isWordEnd (asciiUpper rest) = isWordEnd rest := by
  rw [isWordEnd, isWordEnd, Text.any_head?_asciiUpper Text.caseBlind_isWord]

theorem nonempty?_asciiUpper (text : Text) :
    nonempty? (asciiUpper text) = (nonempty? text).map asciiUpper := by
  rw [nonempty?, nonempty?, Text.isEmpty_asciiUpper]
  split <;> rfl

theorem afterBlanks?_asciiUpper (text : Text) :
    afterBlanks? (asciiUpper text) = (afterBlanks? text).map asciiUpper := by
  cases text with
  | nil => rfl
  | cons c rest =>
    show (if Text.isBlank c.toUpper then some ((asciiUpper rest).dropWhile Text.isBlank)
      else none) = _
    rw [Text.caseBlind_isBlank c, Text.dropWhile_asciiUpper Text.caseBlind_isBlank, afterBlanks?]
    split <;> rfl

theorem leadingWord?_asciiUpper (line : Text) :
    leadingWord? (asciiUpper line) =
      (leadingWord? line).map fun parts => (asciiUpper parts.1, asciiUpper parts.2) := by
  rw [leadingWord?, leadingWord?, Text.takeWhile_asciiUpper Text.caseBlind_isWord,
    Text.dropWhile_asciiUpper Text.caseBlind_isWord, nonempty?_asciiUpper]
  cases nonempty? (line.takeWhile Text.isWord) <;> rfl

theorem isMacroEnd_asciiUpper (line : Text) : isMacroEnd (asciiUpper line) = isMacroEnd line := by
  rw [isMacroEnd, isMacroEnd, Text.afterKeyword?_asciiUpper]
  cases Text.afterKeyword? "endm" line with
  | none => rfl
  | some rest => exact isWordEnd_asciiUpper rest

theorem inclusion?_asciiUpper (line : Text) :
    inclusion? (asciiUpper line) = (inclusion? line).map asciiUpper := by
  have quotes : CaseBlind fun c => c == '"' || c == '\'' :=
    Text.caseBlind_of_letters (by decide)
  have target : CaseBlind fun c => !(c == '"' || c == '\'') && !Text.isBlank c :=
    Text.caseBlind_of_letters (by decide)
  have behind : ∀ rest : Text, (asciiUpper rest).drop 1 = asciiUpper (rest.drop 1) :=
    fun rest => (List.map_drop ..).symm
  rw [inclusion?, inclusion?, Text.afterKeyword?_asciiUpper]
  cases Text.afterKeyword? "include" line with
  | none => rfl
  | some rest =>
    rw [Option.map_some, Option.bind_some, Option.bind_some, afterBlanks?_asciiUpper]
    cases afterBlanks? rest with
    | none => rfl
    | some rest =>
      simp only [Option.map_some, Option.bind_some, Text.any_head?_asciiUpper quotes, behind]
      rw [← nonempty?_asciiUpper, ← Text.takeWhile_asciiUpper target]
      split <;> rfl

theorem nameFirst?_asciiUpper (line : Text) :
    nameFirst? (asciiUpper line) = (nameFirst? line).map asciiUpper := by
  rw [nameFirst?, nameFirst?, leadingWord?_asciiUpper]
  cases leadingWord? line with
  | none => rfl
  | some parts =>
    obtain ⟨name, rest⟩ := parts
    cases rest with
    | nil => rfl
    | cons mark more =>
      by_cases colon : mark = ':'
      · subst colon
        show ((Text.afterKeyword? "macro" ((asciiUpper more).dropWhile Text.isBlank)).bind _) = _
        rw [Text.dropWhile_asciiUpper Text.caseBlind_isBlank, Text.afterKeyword?_asciiUpper]
        simp only [Option.bind_some]
        cases Text.afterKeyword? "macro" (more.dropWhile Text.isBlank) with
        | none => rfl
        | some after =>
          simp only [Option.map_some, Option.bind_some, isWordEnd_asciiUpper]
          split <;> rfl
      · have unlike : mark.toUpper ≠ ':' := fun same =>
          colon ((Text.toUpper_eq_iff rfl mark).1 same)
        simp [asciiUpper, colon, unlike]

theorem keywordFirst?_asciiUpper (line : Text) :
    keywordFirst? (asciiUpper line) = (keywordFirst? line).map asciiUpper := by
  rw [keywordFirst?, keywordFirst?, Text.afterKeyword?_asciiUpper]
  cases Text.afterKeyword? "macro" line with
  | none => rfl
  | some rest =>
    rw [Option.map_some, Option.bind_some, Option.bind_some, afterBlanks?_asciiUpper]
    cases afterBlanks? rest with
    | none => rfl
    | some rest =>
      simp only [Option.map_some, Option.bind_some,
        Text.takeWhile_asciiUpper Text.caseBlind_isWord, nonempty?_asciiUpper]

theorem label?_asciiUpper (line : Text) :
    label? (asciiUpper line) = (label? line).map asciiUpper := by
  have unlike : ∀ mark, mark ≠ ':' → Char.toUpper mark ≠ ':' :=
    fun mark other same => other ((Text.toUpper_eq_iff rfl mark).1 same)
  have checked : ∀ name more : Text,
      (if (asciiUpper more).head?.all Text.isBlank then some (asciiUpper name) else none) =
        (if more.head?.all Text.isBlank then some name else none).map asciiUpper := by
    intro name more
    have blank : (asciiUpper more).head?.all Text.isBlank = more.head?.all Text.isBlank := by
      cases more with
      | nil => rfl
      | cons c rest => exact Text.caseBlind_isBlank c
    rw [blank]
    split <;> rfl
  rw [label?, label?, leadingWord?_asciiUpper]
  cases leadingWord? line with
  | none => rfl
  | some parts =>
    obtain ⟨name, rest⟩ := parts
    cases rest with
    | nil => rfl
    | cons mark more =>
      by_cases colon : mark = ':'
      · subst colon
        cases more with
        | nil => rfl
        | cons second others =>
          by_cases double : second = ':'
          · subst double
            exact checked name others
          · have single := checked name (second :: others)
            simp only [asciiUpper, List.map_cons] at single
            simpa [asciiUpper, double, unlike second double] using single
      · simp [asciiUpper, colon, unlike mark colon]

/-- A line in capitals has the same landmark, with what it names in capitals. -/
theorem landmark?_asciiUpper (line : Text) :
    landmark? (asciiUpper line) = (landmark? line).map Landmark.asciiUpper := by
  rw [landmark?, landmark?, header?, header?, inclusion?_asciiUpper, nameFirst?_asciiUpper,
    keywordFirst?_asciiUpper, label?_asciiUpper]
  cases inclusion? line <;> cases nameFirst? line <;> cases keywordFirst? line <;>
    cases label? line <;> rfl

end Scan

end Sm83Cost
