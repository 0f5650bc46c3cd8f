import Sm83Cost.Proofs.Line.Rendering
import Sm83Cost.Proofs.Routine.LastLabels

/-!
# Labels that are parsed and labels that are documented

A label is recognised twice.  Taking a line apart finds it at the beginning of the
code, whatever stands behind its colons.  A scan looks for it on the whole trimmed
line, and there a blank or nothing has to follow the colons (`isSetOff`).

So a label with comments above it is documented if it is set off from what
follows.  If code or a comment stands directly behind its colons, the scan takes
the line for ordinary code: it documents nothing, and the comments are lost
(`scan_documents_parsed_labels`).
-/

namespace Sm83Cost

set_option autoImplicit false

namespace Scan

open Line (codeOf Leads)

variable {scanner : Scanner} {tree : FileTree} {file : Option Text} {lines : List Text}
  {text name : Text} {index : Nat} {progress : Progress}

/-! ## One label, recognised twice -/

/-- A blank or nothing stands behind the label at the beginning of a line and its colons. -/
def isSetOff (text : Text) : Bool :=
  (Line.dropColons 2 ((Text.trim text).dropWhile Text.isWord)).head?.all Text.isBlank

/-- A word and its colons are a label if they are set off. -/
theorem label?_of_leadingWord? {line rest : Text}
    (found : leadingWord? line = some (name, ':' :: rest)) :
    label? line = if (Line.dropColons 1 rest).head?.all Text.isBlank then some name else none := by
  cases rest with
  | nil =>
    rw [label?, found]
    rfl
  | cons c rest =>
    by_cases double : c = ':'
    · subst double
      rw [label?, found]
      rfl
    · rw [label?_of_single found double, Line.dropColons_of_ne double]
      rfl

/-- A global label that is cut off from some code is a word before a colon. -/
theorem leadingWord?_of_label {code : Text} (labelled : (Line.labelAndCode code).1 = some name)
    (global : name.head? ≠ some '.') :
    ∃ rest, leadingWord? code = some (name, ':' :: rest) := by
  rw [Line.labelAndCode] at labelled
  split at labelled
  · rename_i label behind found
    obtain rfl := Option.some.inj labelled
    cases code with
    | nil => cases found
    | cons c more =>
      by_cases point : c = '.'
      · subst point
        rw [Line.splitLabel?_point] at found
        split at found
        · cases found
        · cases found
          exact absurd rfl global
      · rw [Line.splitLabel?_of_ne point] at found
        split at found
        · cases found
        · rename_i rest colon nonempty
          cases found
          refine ⟨rest, ?_⟩
          rw [leadingWord?, nonempty?, if_neg (by simpa using nonempty), colon]
          rfl
        · cases found
  · cases labelled

/-- A line whose code has a label begins with it and a colon. -/
theorem leadingWord?_of_parse {isMacro : Text → Bool} {number : Int} {line : Line}
    (parsed : Line.parse isMacro number text = .ok line) (labelled : line.label = some name)
    (global : name.head? ≠ some '.') :
    ∃ rest, leadingWord? (Text.trim text) = some (name, ':' :: rest) := by
  obtain ⟨operation, -, rfl⟩ := Line.parse_eq_ok.1 parsed
  obtain ⟨remark, follows, whole⟩ := Line.trim_eq_codeOf_append text
  obtain ⟨rest, found⟩ := leadingWord?_of_label labelled global
  rw [whole, leadingWord?_append follows, Line.codeOf, found]
  exact ⟨rest ++ remark, rfl⟩

/-- No line with a label includes a file. -/
theorem inclusion?_of_leadingWord? {line rest : Text}
    (found : leadingWord? line = some (name, ':' :: rest)) : inclusion? line = none := by
  cases included : inclusion? line with
  | none => rfl
  | some target =>
    rw [← List.append_nil line] at included
    obtain ⟨word, behind, rfl, leads⟩ := leads_of_inclusion? .none included
    have unlabelled := leads.labelAndCode (by decide) (by decide)
    rw [labelAndCode_of_leadingWord? found] at unlabelled
    cases unlabelled

/-- A scan recognises a label that a line has if it is set off. -/
theorem landmark?_of_parse {isMacro : Text → Bool} {number : Int} {line : Line}
    (parsed : Line.parse isMacro number text = .ok line) (labelled : line.label = some name)
    (global : name.head? ≠ some '.') (headless : header? (Text.trim text) = none) :
    landmark? (Text.trim text) = if isSetOff text then some (.label name) else none := by
  obtain ⟨rest, found⟩ := leadingWord?_of_parse parsed labelled global
  have behind : (Text.trim text).dropWhile Text.isWord = ':' :: rest := by
    obtain ⟨word, -, made⟩ := Option.map_eq_some_iff.1 found
    exact (Prod.mk.inj made).2
  rw [landmark?, inclusion?_of_leadingWord? found, headless, label?_of_leadingWord? found, isSetOff,
    behind]
  simp only [Line.dropColons]
  split <;> rfl

/-! ## What becomes of a label in a scan -/

/-- A line without a landmark documents nothing. -/
theorem LineStep.routines_eq_of_no_landmark {number : Nat} {directory : Option Path}
    {scan : LineScan} {comments : List Text} {next : Pending} {after : Progress}
    (step : LineStep tree scan directory file number text (.comments comments) progress next after)
    (unmarked : landmark? (Text.trim text) = none) :
    after.scanner.routines = progress.scanner.routines := by
  cases step with
  | ignores | begins | passes => rfl
  | includes mark | labels mark =>
    rw [mark] at unmarked
    cases unmarked

/-- Up to a line outside of macros without a landmark, and with it, the same routines are found. -/
theorem scan_routines_of_no_landmark
    (scanned : scanner.scan tree lines none file = .ok progress)
    (here : lines[index]? = some text)
    (outside : ∀ block start, ¬ OpenAt (lines.take index) block start)
    (unmarked : landmark? (Text.trim text) = none) :
    ∃ before after, scanner.scan tree (lines.take index) none file = .ok before ∧
      scanner.scan tree (lines.take (index + 1)) none file = .ok after ∧
        after.scanner.routines = before.scanner.routines := by
  obtain ⟨above, rest, rfl, rfl⟩ : ∃ above rest, lines = above ++ text :: rest ∧
      index = above.length := by
    obtain ⟨below, found⟩ := List.getElem?_eq_some_iff.1 here
    have placed := List.length_take_of_le (Nat.le_of_lt below)
    refine ⟨lines.take index, lines.drop (index + 1), ?_, placed.symm⟩
    rw [← found, ← List.drop_eq_getElem_cons below, List.take_append_drop]
  rw [List.take_left] at outside
  rw [List.take_left, List.take_length_add_append, List.take_succ_cons, List.take_zero]
  obtain ⟨pending, before, soFar⟩ := exists_soFar_append scanned
  rw [soFar.scan_append] at scanned
  obtain ⟨⟨next, after⟩, further, -⟩ := Fault.bind_eq_ok.1 scanned
  refine ⟨_, _, soFar.scan_eq, (soFar.snoc further).scan_eq, ?_⟩
  rw [finish_scanner, finish_scanner]
  have pendingAt := soFar.describes.1
  cases pendingAt with
  | comments shut => exact (lineStep_of_scanLine further).routines_eq_of_no_landmark unmarked
  | block isOpen named collected => exact absurd isOpen (outside _ _)

/-- **A label that is parsed is documented if it is set off.**  A line of a document is outside of
macros and begins none, and a global label is found on it when it is taken apart.  The comments
above it say something.  If a blank or nothing stands behind the colons, a routine of this name is
known after the scan.  Otherwise the line documents nothing: up to it and with it the same routines
are found. -/
theorem scan_documents_parsed_labels
    (scanned : scanner.scan tree lines none file = .ok progress)
    (here : lines[index]? = some text)
    (outside : ∀ block start, ¬ OpenAt (lines.take index) block start)
    (headless : header? (Text.trim text) = none)
    {isMacro : Text → Bool} {number : Int} {line : Line}
    (parsed : Line.parse isMacro number text = .ok line) (labelled : line.label = some name)
    (global : name.head? ≠ some '.') (spoken : (summaryAbove lines index).isSilent = false) :
    (isSetOff text = true → progress.scanner.routines.find? name ≠ none) ∧
      (isSetOff text = false → ∃ before after,
        scanner.scan tree (lines.take index) none file = .ok before ∧
          scanner.scan tree (lines.take (index + 1)) none file = .ok after ∧
            after.scanner.routines = before.scanner.routines) := by
  have mark := landmark?_of_parse parsed labelled global headless
  constructor
  · intro setOff
    rw [setOff, if_pos rfl] at mark
    have speaks : SpeaksAt lines index name :=
      ⟨⟨⟨text, here, landmark?_eq_label.1 mark⟩, outside⟩, spoken⟩
    exact (documents_scan scanned (Text.upper name)).ne_none speaks
  · intro joined
    rw [joined, if_neg Bool.false_ne_true] at mark
    exact scan_routines_of_no_landmark scanned here outside mark

/-- The first of two labels is set off from its code, and the second one is not. -/
theorem scan_documents_parsed_labels_set_off :
    let lines : List Text := ["; Adds.".toList, "Add:: add b".toList, "; Doubles.".toList,
      "Double:add a".toList]
    ∃ progress, ({} : Scanner).scan {} lines none none = .ok progress ∧
      progress.scanner.routines.find? "Add" ≠ none ∧
        ∃ before after, ({} : Scanner).scan {} (lines.take 3) none none = .ok before ∧
          ({} : Scanner).scan {} (lines.take 4) none none = .ok after ∧
            after.scanner.routines = before.scanner.routines := by
  intro lines
  have headless : ∀ text ∈ lines, header? (Text.trim text) = none := by decide
  have outside : ∀ index block start, ¬ OpenAt (lines.take index) block start := by
    intro index block start isOpen
    obtain ⟨text, found, named⟩ := isOpen.header
    rw [headless text (List.mem_of_mem_take (List.mem_of_getElem? found))] at named
    cases named
  have scans : (({} : Scanner).scan {} lines none none).isOk = true := by decide +kernel
  cases scanned : ({} : Scanner).scan {} lines none none with
  | error stopped =>
    rw [scanned] at scans
    cases scans
  | ok progress =>
    refine ⟨progress, rfl, ?_, ?_⟩
    · have here : lines[1]? = some "Add:: add b".toList := rfl
      obtain ⟨line, parsed, labelled⟩ : ∃ line,
          Line.parse (fun _ => false) 1 "Add:: add b".toList = .ok line ∧
            line.label = some "Add".toList := ⟨_, rfl, by decide⟩
      have documented := scan_documents_parsed_labels scanned here (outside 1) (by decide) parsed
        labelled (by decide) (by decide +kernel)
      exact documented.1 (by decide)
    · have here : lines[3]? = some "Double:add a".toList := rfl
      obtain ⟨line, parsed, labelled⟩ : ∃ line,
          Line.parse (fun _ => false) 3 "Double:add a".toList = .ok line ∧
            line.label = some "Double".toList := ⟨_, rfl, by decide⟩
      have documented := scan_documents_parsed_labels scanned here (outside 3) (by decide) parsed
        labelled (by decide) (by decide +kernel)
      exact documented.2 (by decide)

/-- A comment directly behind the colon hides a label from a scan.  The label is found when the line
is taken apart, and the comment above it says something, but nothing is documented. -/
theorem joined_label_is_not_documented :
    let lines : List Text := ["; Adds b to a.".toList, "Add:; entry".toList, " add b".toList]
    (∃ line, Line.parse (fun _ => false) 1 "Add:; entry".toList = .ok line ∧
      line.label = some "Add".toList) ∧
      (summaryAbove lines 1).isSilent = false ∧
        ∃ progress, ({} : Scanner).scan {} lines none none = .ok progress ∧
          progress.scanner.routines.find? "Add" = none := by
  intro lines
  refine ⟨⟨_, rfl, by decide⟩, by decide +kernel, ?_⟩
  have outcome : (({} : Scanner).scan {} lines none none).toOption.map (fun progress =>
      progress.scanner.routines.find? "Add") = some none := by
    decide +kernel
  cases scanned : ({} : Scanner).scan {} lines none none with
  | error stopped =>
    rw [scanned] at outcome
    cases outcome
  | ok progress =>
    rw [scanned] at outcome
    exact ⟨progress, rfl, Option.some.inj outcome⟩

end Scan

end Sm83Cost
