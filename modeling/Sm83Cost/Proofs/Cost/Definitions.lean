import Sm83Cost.Proofs.Cost.RunningTotals
import Sm83Cost.Proofs.Scan.Bounds
import Sm83Cost.Proofs.Scan.Reachability

/-!
# Which lines define macros

Two passes over a document tell its macro definitions from the rest.  The scan
takes the lines of a macro up into a block, from the header to the end, and the
count gives no cost to the lines from `MACRO` to `ENDM`.  They recognise these
bounds in different ways, and one line on which they differ changes what follows.

On regular lines they do not differ, and then the lines without a cost are exactly
the lines that are taken up (`definitions_are_blocks`).  Without that condition
they may differ (`nameless_macro_is_no_block`): behind `MACRO` without a name no
line has a cost, although the scan knows of no macro there.
-/

namespace Sm83Cost

set_option autoImplicit false

namespace Scan

/-- For each line, whether the scan takes it up into a macro: one is open before the line, or begins
on it.  Lines behind one that cannot be scanned are left out. -/
def takenUpFrom (tree : FileTree) (scan : LineScan) (directory : Option Path)
    (file : Option Text) : Nat → List Text → Pending → Progress → List Bool
  | _, [], _, _ => []
  | number, text :: rest, pending, progress =>
    match scanLine tree scan directory file number text pending progress with
    | .error _ => []
    | .ok (next, after) =>
      (pending.isOpen || next.isOpen) ::
        takenUpFrom tree scan directory file (number + 1) rest next after

/-- A scan that goes on inside of a macro until its end, and outside of macros until a header. -/
theorem LineStep.isOpen_eq {tree : FileTree} {scan : LineScan} {directory : Option Path}
    {file : Option Text} {number : Nat} {text : Text} {pending next : Pending}
    {progress after : Progress}
    (step : LineStep tree scan directory file number text pending progress next after) :
    next.isOpen =
      if pending.isOpen then !isMacroEnd (Line.codeOf text)
      else (header? (Line.codeOf text)).isSome := by
  have unmarked : (∀ name, landmark? (Text.trim text) ≠ some (.header name)) →
      (header? (Line.codeOf text)).isSome = false := by
    intro other
    rw [Option.isSome_eq_false_iff, Option.isNone_iff_eq_none, Option.eq_none_iff_forall_ne_some]
    exact fun name found => other name (landmark?_eq_header_iff.2 found)
  cases step with
  | closes ends closed =>
    rw [isMacroEnd_trim] at ends
    simp [ends]
  | collects goesOn =>
    rw [isMacroEnd_trim] at goesOn
    simp [goesOn]
  | ignores mark nowhere => simp [unmarked (by simp [mark])]
  | includes mark given step => simp [unmarked (by simp [mark])]
  | begins mark => simp [landmark?_eq_header_iff.1 mark]
  | labels mark => simp [unmarked (by simp [mark])]
  | passes mark parsed => simp [unmarked (by simp [mark])]

end Scan

/-- For each line of a document, whether a scan of the document takes it up into a macro. -/
def Scanner.takenUp (scanner : Scanner) (tree : FileTree) (lines : List Text)
    (directory : Option Path) (file : Option Text) : List Bool :=
  match scanner.start tree file with
  | .error _ => []
  | .ok progress =>
    Scan.takenUpFrom tree (Scan.scanTo tree tree.nodes.length) directory file 0 lines
      (.comments []) progress

namespace Session

/-- The line is visited as part of a macro definition. -/
def Visit.isDefinition : Visit → Bool
  | .definition _ => true
  | .resolved _ => false

/-! ## The directives of a line -/

/-- The code behind a label is trimmed. -/
theorem isTrimmed_labelAndCode (text : Text) :
    Text.IsTrimmed (Line.labelAndCode (Line.codeOf text)).2 := by
  rw [Line.labelAndCode]
  cases Line.splitLabel? (Line.codeOf text) with
  | none => exact Text.isTrimmed_trim _
  | some parts => exact Text.isTrimmed_trim _

/-- A line holds one of the two directives when the code begins with its keyword, behind the label
if there is one. -/
theorem holds_of_parse {keyword : Text}
    (bound : keyword = "macro".toList ∨ keyword = "endm".toList) {isMacro : Text → Bool}
    {number : Int} {text : Text} {line : Line}
    (parsed : Line.parse isMacro number text = .ok line) :
    holds (keyword.map Char.toUpper) line =
      Scan.standsAlone keyword (Line.labelAndCode (Line.codeOf text)).2 := by
  have facts : keyword ≠ [] ∧ (∀ c ∈ keyword, c ∈ Text.ordinaryLetters) ∧ ∀ operands,
      Line.roleOf isMacro (keyword.map Char.toUpper) operands = .ok .directive := by
    rcases bound with rfl | rfl
    · exact ⟨by decide, Text.forall_mem_of_all (by decide), fun _ => rfl⟩
    · exact ⟨by decide, Text.forall_mem_of_all (by decide), fun _ => rfl⟩
  obtain ⟨nonempty, ordinary, directive⟩ := facts
  have mnemonic := Line.upper_splitMnemonic_iff ordinary (isTrimmed_labelAndCode text)
  rw [← Scan.standsAlone_iff] at mnemonic
  obtain ⟨operation, read, rfl⟩ := Line.parse_eq_ok.1 parsed
  rw [← Line.codeOf] at read
  rw [Bool.eq_iff_iff, ← mnemonic]
  cases operation with
  | none =>
    rw [Line.eq_nil_of_operationOf read]
    constructor
    · intro held
      exact absurd held Bool.false_ne_true
    · intro same
      exact absurd (List.map_eq_nil_iff.1 same.symm) nonempty
  | some operation =>
    obtain ⟨named, -, role⟩ := Line.operationOf_eq_some read
    simp only [holds, Option.any_some, Bool.and_eq_true, beq_iff_eq, ← named]
    constructor
    · exact And.right
    · intro same
      rw [same, directive, Except.ok.injEq] at role
      exact ⟨role.symm, same⟩

/-! ## Both passes -/

section Passes

variable {tree : FileTree} {scan : Scan.LineScan} {directory : Option Path} {file : Option Text}
  {session : Session}

/-- On a regular line the two passes agree: before the line a macro is open for both, and then the
line belongs to a definition for both, and behind it a macro is open for both. -/
theorem visitLine_of_scanLine {number : Nat} {text : Text} (regular : Scan.isRegular text = true)
    {pending next : Scan.Pending} {progress after : Scan.Progress}
    (scanned : Scan.scanLine tree scan directory file number text pending progress =
      .ok (next, after)) {visit : Visit} {inside : Bool}
    (visited : session.visitLine pending.isOpen number text = .ok (visit, inside)) :
    visit.isDefinition = (pending.isOpen || next.isOpen) ∧ inside = next.isOpen := by
  rw [Scan.isRegular, Bool.and_eq_true] at regular
  obtain ⟨line, parsed, carried, kind⟩ := visitLine_eq_ok visited
  have begins : holds "MACRO" line = (Scan.header? (Line.codeOf text)).isSome := by
    rw [Scan.isSome_header?_of_regular regular.1]
    exact holds_of_parse (.inl rfl) parsed
  have ends : holds "ENDM" line = Scan.isMacroEnd (Line.codeOf text) := by
    rw [Scan.isMacroEnd_of_regular regular.2]
    exact holds_of_parse (.inr rfl) parsed
  have defines : visit.isDefinition = (pending.isOpen || holds "MACRO" line) := by
    cases part : pending.isOpen || holds "MACRO" line with
    | true =>
      rw [part, if_pos rfl] at kind
      rw [kind]
      rfl
    | false =>
      rw [part, if_neg Bool.false_ne_true] at kind
      obtain ⟨cost, -, rfl⟩ := kind
      rfl
  have opened := (Scan.lineStep_of_scanLine scanned).isOpen_eq
  rw [defines, carried, opened, ← begins, ← ends]
  cases pending.isOpen with
  | true => simp
  | false =>
    cases starts : holds "MACRO" line with
    | true =>
      rw [holds_macro_not_endm starts]
      simp
    | false => simp

/-- On regular lines the two passes agree from any line on, if they agree before it. -/
theorem map_isDefinition_visitLines {lines : List Text}
    (regular : ∀ text ∈ lines, Scan.isRegular text = true) {number : Nat}
    {pending : Scan.Pending} {progress final : Scan.Progress}
    (scanned : Scan.scanLines tree scan directory file number lines pending progress = .ok final)
    (complete : (session.visitLines pending.isOpen number lines).2 = none) :
    (session.visitLines pending.isOpen number lines).1.map Visit.isDefinition =
      Scan.takenUpFrom tree scan directory file number lines pending progress := by
  induction lines generalizing number pending progress with
  | nil => rfl
  | cons text rest ih =>
    rw [Scan.scanLines] at scanned
    obtain ⟨⟨next, after⟩, line, others⟩ := Fault.bind_eq_ok.1 scanned
    rw [visitLines] at complete ⊢
    rw [Scan.takenUpFrom, line]
    cases visited : session.visitLine pending.isOpen number text with
    | error fault =>
      rw [visited] at complete
      cases complete
    | ok result =>
      obtain ⟨visit, inside⟩ := result
      obtain ⟨defines, same⟩ :=
        visitLine_of_scanLine (regular text List.mem_cons_self) line visited
      subst same
      simp only [visited] at complete ⊢
      rw [List.map_cons, defines,
        ih (fun other member => regular other (List.mem_cons_of_mem text member)) others complete]

end Passes

/-- **Both passes agree on what a macro definition is**, where all lines are regular.  When the
analysis of a document returns, the lines that it visits as parts of macro definitions, and so
without a cost, are exactly those that its scan takes up into macros. -/
theorem definitions_are_blocks (session : Session) (tree : FileTree) {lines : List Text}
    (regular : ∀ text ∈ lines, Scan.isRegular text = true) (file : Option Text)
    (directory : Option Path) {costs : List LineCost}
    (returned : (session.analyse tree lines file directory true).result = .ok costs) :
    ((session.scan tree lines directory file).session.visitLines false 0 lines).1.map
        Visit.isDefinition =
      session.scanner.takenUp tree lines directory file := by
  rw [analyse, if_pos rfl] at returned
  cases outcome : (session.scan tree lines directory file).result with
  | error fault => simp [outcome] at returned
  | ok done =>
    simp only [outcome] at returned
    obtain ⟨complete, -⟩ := countLines_eq_ok returned
    cases scanned : session.scanner.scan tree lines directory file with
    | error stopped => simp [scan, scanned] at outcome
    | ok final =>
      rw [Scanner.scan_eq] at scanned
      obtain ⟨progress, started, document⟩ := Fault.bind_eq_ok.1 scanned
      rw [Scanner.takenUp, started]
      exact map_isDefinition_visitLines regular document complete

/-- Two macros, one in each style of header, with comments that name the keywords. -/
theorem definitions_are_blocks_both_styles :
    let lines : List Text :=
      ["Two: MACRO ; ENDM".toList, " nop".toList, " ENDM".toList, " Two ; MACRO Three".toList,
        "macro Three".toList, " Two".toList, "endm".toList, " Three".toList]
    (({} : Session).scan {} lines none none).session.visitLines false 0 lines |>.1.map
        Visit.isDefinition =
      [true, true, true, false, true, true, true, false] := by
  intro lines
  have taken : ({} : Scanner).takenUp {} lines none none =
      [true, true, true, false, true, true, true, false] := by decide +kernel
  cases returned : (({} : Session).analyse {} lines none none true).result with
  | error fault =>
    have succeeds : (({} : Session).analyse {} lines none none true).result.isOk = true := by
      decide +kernel
    rw [returned] at succeeds
    cases succeeds
  | ok costs =>
    have same := definitions_are_blocks {} {} (by decide +kernel) none none returned
    exact same.trans taken

/-- Behind `MACRO` without a name every line belongs to a definition, and the scan takes none of
them up. -/
theorem nameless_macro_is_no_block :
    let lines : List Text := ["MACRO".toList, " nop".toList]
    (({} : Session).analyse {} lines none none true).result.isOk = true ∧
      ((({} : Session).scan {} lines none none).session.visitLines false 0 lines).1.map
          Visit.isDefinition = [true, true] ∧
      ({} : Scanner).takenUp {} lines none none = [false, false] := by
  decide +kernel

end Session

end Sm83Cost
