import Mathlib.Data.List.Forall2
import Sm83Cost.Proofs.Line.View
import Sm83Cost.Proofs.Scan.Steps

/-!
# Scans that go abreast

Two scans walk over two documents whose lines are alike.  Where a view is
indifferent to the difference between the lines, it cannot tell the scans apart:
they register the same macros, as far as the view can see, visit the same
places, and are given up at the same line for the same reason
(`abreast_scan`).  What they note, and which routines they find, is left open,
since no cost depends on it.

Documents that differ are scanned here without a directory for included files.
A document may also be compared with itself, and then included files are
followed: this says that a scan depends on nothing but the opcode table and the
pinned macros of its scanner (`View.indifferent_whole`).
-/

namespace Sm83Cost

set_option autoImplicit false

/-! ## Scanners -/

/-- The scanners have the given table and pinned macros, and the same macros, as far as the view
can see. -/
structure Scanner.Abreast (view : View) (table : Opcode.Table) (pinned : Option (Registry Macro))
    (first second : Scanner) : Prop where
  tables : first.table = table ∧ second.table = table
  pins : first.pinned = pinned ∧ second.pinned = pinned
  macros : first.macros.map (Macro.seen view) = second.macros.map (Macro.seen view)

section Scanners

variable {view : View} {table : Opcode.Table} {pinned : Option (Registry Macro)}
  {first second : Scanner}

/-- Neither scanner knows a macro, or both do, and the macros look alike. -/
theorem Scanner.Abreast.find? (same : Scanner.Abreast view table pinned first second)
    (name : Text) :
    first.macros.find? name = none ∧ second.macros.find? name = none ∨
      ∃ definition other, first.macros.find? name = some definition ∧
        second.macros.find? name = some other ∧ definition.seen view = other.seen view := by
  have found : (first.macros.find? name).map (Macro.seen view) =
      (second.macros.find? name).map (Macro.seen view) := by
    simpa only [Registry.find?, Store.get?_map] using
      congrArg (fun macros => Registry.find? macros name) same.macros
  cases here : first.macros.find? name with
  | none =>
    rw [here, Option.map_none, eq_comm, Option.map_eq_none_iff] at found
    exact .inl ⟨rfl, found⟩
  | some definition =>
    rw [here, Option.map_some, eq_comm, Option.map_eq_some_iff] at found
    obtain ⟨other, there, alike⟩ := found
    exact .inr ⟨definition, other, rfl, there, alike.symm⟩

/-- Both scanners take the same names for macros. -/
theorem Scanner.Abreast.recognises (same : Scanner.Abreast view table pinned first second) :
    first.recognises = second.recognises := by
  funext name
  rw [Scanner.recognises, Scanner.recognises, same.pins.1, same.pins.2]
  cases pinned with
  | some kept => rfl
  | none =>
    simp only [Option.getD_none, Registry.defines]
    obtain ⟨here, there⟩ | ⟨definition, other, here, there, -⟩ := same.find? name
    · rw [here, there]
    · rw [here, there]
      rfl

/-- Lines that are alike are taken apart alike. -/
theorem Scanner.Abreast.parseLine {alike : Text → Text → Prop}
    (indifferent : view.Indifferent alike)
    (same : Scanner.Abreast view table pinned first second) {text other : Text}
    (lines : alike text other) (number : Int) :
    Parallel Eq (fun line line' => line.seen view = line'.seen view)
      (first.parseLine text number) (second.parseLine other number) := by
  rw [Scanner.parseLine, Scanner.parseLine, same.recognises]
  exact indifferent.parse lines second.recognises number

end Scanners

namespace Scan

/-! ## Bodies of macros -/

/-- A measured line through a view.  Notes are not seen. -/
def BodyLine.seen (view : View) (body : BodyLine) : BodyLine :=
  { body with line := body.line.seen view, record := none }

/-- A macro looks as if it were made from what is seen of its body. -/
theorem seen_define (view : View) (block : Block) (endLine : Nat) (body : List BodyLine) :
    (block.define endLine body).seen view =
      block.define endLine (body.map (BodyLine.seen view)) := by
  simp [Block.define, Macro.seen, BodyLine.seen, List.filter_map, Function.comp_def,
    Line.isSome_operation_seen]

section Bodies

variable {view : View} {alike : Text → Text → Prop} {table : Opcode.Table}
  {pinned : Option (Registry Macro)} {first second : Scanner}

/-- Operations that look alike add the same. -/
theorem measureOperation_abreast (indifferent : view.Indifferent alike)
    (same : Scanner.Abreast view table pinned first second) {line other : Line}
    (lines : line.seen view = other.seen view) {operation operation' : Operation}
    (operations : operation.seen view = operation'.seen view) :
    Parallel Eq (fun body body' => BodyLine.seen view body = BodyLine.seen view body')
      (measureOperation first line operation) (measureOperation second other operation') := by
  obtain ⟨mnemonics, operands, roles⟩ := Operation.seen_eq_iff.1 operations
  rw [measureOperation, measureOperation, mnemonics, roles]
  cases operation'.role with
  | data bytes => exact .ok (by simp [BodyLine.seen, lines])
  | directive => exact .ok (by simp [BodyLine.seen, lines])
  | predef kind => exact .ok (by simp [BodyLine.seen, lines])
  | macroCall =>
    obtain ⟨here, there⟩ | ⟨nested, nested', here, there, seen⟩ := same.find? operation'.mnemonic
    · simp only [here, there]
      exact .ok (by simp [BodyLine.seen, lines])
    · obtain ⟨-, sizes, cycles⟩ := Macro.eq_of_seen_eq seen
      simp only [here, there, sizes, cycles]
      refine Parallel.bind (.refl (fun _ => rfl) (fun _ => rfl) _) ?_
      rintro bounds _ rfl
      exact .ok (by simp [BodyLine.seen, lines])
  | instruction =>
    simp only [same.tables.1, same.tables.2, indifferent.lookup operands]
    refine Parallel.bind (.refl (fun _ => rfl) (fun _ => rfl) _) ?_
    rintro entry _ rfl
    cases entry with
    | none => exact .ok (by simp [BodyLine.seen, lines])
    | some entry =>
      refine Parallel.bind (.refl (fun _ => rfl) (fun _ => rfl) _) ?_
      rintro bounds _ rfl
      exact .ok (by simp [BodyLine.seen, lines])

theorem measure_abreast (indifferent : view.Indifferent alike)
    (same : Scanner.Abreast view table pinned first second) {text other : Text}
    (lines : alike text other) (number : Nat) :
    Parallel Eq (fun body body' => BodyLine.seen view body = BodyLine.seen view body')
      (measure first (number, text)) (measure second (number, other)) := by
  refine Parallel.bind (same.parseLine indifferent lines number).ofNumeral ?_
  intro line line' seen
  obtain ⟨here, there⟩ | ⟨operation, operation', here, there, operations⟩ :=
    Line.operation_of_seen_eq seen
  · simp only [here, there]
    exact .ok (by simp [BodyLine.seen, seen])
  · simp only [here, there]
    exact measureOperation_abreast indifferent same seen operations

/-- Numbered lines that are alike. -/
def AlikeLines (alike : Text → Text → Prop) : List (Nat × Text) → List (Nat × Text) → Prop :=
  List.Forall₂ fun one other => one.1 = other.1 ∧ alike one.2 other.2

/-- Bodies whose lines are alike are measured alike, up to the same line. -/
theorem measureAll_abreast (indifferent : view.Indifferent alike)
    (same : Scanner.Abreast view table pinned first second) {lines others : List (Nat × Text)}
    (bodies : AlikeLines alike lines others) :
    (measureAll first lines).1.map (BodyLine.seen view) =
        (measureAll second others).1.map (BodyLine.seen view) ∧
      (measureAll first lines).2 = (measureAll second others).2 := by
  induction bodies with
  | nil => exact ⟨rfl, rfl⟩
  | @cons one other rest others here _ ih =>
    obtain ⟨number, text⟩ := one
    obtain ⟨_, text'⟩ := other
    obtain ⟨rfl, texts⟩ := here
    have together := measure_abreast indifferent same texts number
    rw [measureAll, measureAll]
    generalize measure first (number, text) = measured at together ⊢
    generalize measure second (number, text') = measured' at together ⊢
    cases together with
    | error causes => exact ⟨rfl, congrArg some causes⟩
    | ok seen =>
      refine ⟨?_, ih.2⟩
      rw [List.map_cons, List.map_cons, seen, ih.1]

end Bodies

/-! ## Progress -/

/-- The scans are at the same point, as far as the view can see. -/
structure Abreast (view : View) (table : Opcode.Table) (pinned : Option (Registry Macro))
    (first second : Progress) : Prop where
  scanner : Scanner.Abreast view table pinned first.scanner second.scanner
  visited : first.visited = second.visited

/-- The scans were given up at the same point for the same reason. -/
structure StoppedAbreast (view : View) (table : Opcode.Table) (pinned : Option (Registry Macro))
    (first second : Stopped) : Prop where
  fault : first.fault = second.fault
  progress : Abreast view table pinned first.progress second.progress

/-- Both scans succeed or both are given up, at the same point. -/
abbrev EndAbreast (view : View) (table : Opcode.Table) (pinned : Option (Registry Macro)) :
    Except Stopped Progress → Except Stopped Progress → Prop :=
  Parallel (StoppedAbreast view table pinned) (Abreast view table pinned)

/-- The progress with other routines and another journal. -/
def Progress.besides (progress : Progress) (routines : Registry Routine)
    (journal : List Record) : Progress :=
  { progress with scanner := { progress.scanner with routines }, journal }

section Progress

variable {view : View} {alike : Text → Text → Prop} {table : Opcode.Table}
  {pinned : Option (Registry Macro)} {first second : Progress}

theorem Abreast.note (same : Abreast view table pinned first second)
    (records others : List Record) :
    Abreast view table pinned (first.note records) (second.note others) :=
  ⟨same.scanner, same.visited⟩

theorem Abreast.visit (same : Abreast view table pinned first second) (place : Route) :
    Abreast view table pinned (first.visit place) (second.visit place) :=
  ⟨same.scanner, congrArg (· ++ [place]) same.visited⟩

theorem Abreast.besides (same : Abreast view table pinned first second)
    (routines others : Registry Routine) (journal other : List Record) :
    Abreast view table pinned (first.besides routines journal) (second.besides others other) :=
  ⟨⟨same.scanner.tables, same.scanner.pins, same.scanner.macros⟩, same.visited⟩

/-- Macros that look alike may be registered under one name. -/
theorem Abreast.addMacro (same : Abreast view table pinned first second)
    {definition other : Macro} (seen : definition.seen view = other.seen view) :
    Abreast view table pinned (first.addMacro definition) (second.addMacro other) := by
  have names := (Macro.eq_of_seen_eq seen).1
  refine ⟨⟨same.scanner.tables, same.scanner.pins, ?_⟩, same.visited⟩
  show Store.map _ (Store.put _ (Text.upper definition.name) definition) =
    Store.map _ (Store.put _ (Text.upper other.name) other)
  rw [Store.map_put, Store.map_put, same.scanner.macros, seen, names]

/-- Labels change only the routines and the journal. -/
theorem documentLabel_eq_besides (file : Option Text) (name : Text) (line : Nat)
    (comments : List Text) (progress : Progress) :
    ∃ routines journal,
      documentLabel file name line comments progress = progress.besides routines journal := by
  unfold documentLabel
  dsimp only
  split
  · exact ⟨progress.scanner.routines, progress.journal, rfl⟩
  · exact ⟨_, _, rfl⟩

/-- Macros with the same name and bodies that are alike are closed alike. -/
theorem closeBlock_abreast (indifferent : view.Indifferent alike)
    (same : Abreast view table pinned first second) {block other : Block}
    (names : block.name = other.name) (starts : block.startLine = other.startLine)
    (bodies : AlikeLines alike block.lines other.lines) (endLine : Nat) :
    EndAbreast view table pinned (closeBlock block endLine first)
      (closeBlock other endLine second) := by
  obtain ⟨seen, faults⟩ := measureAll_abreast indifferent same.scanner bodies
  unfold closeBlock
  generalize measureAll first.scanner block.lines = measured at seen faults ⊢
  generalize measureAll second.scanner other.lines = measured' at seen faults ⊢
  obtain ⟨body, fault⟩ := measured
  obtain ⟨body', fault'⟩ := measured'
  dsimp only at seen faults ⊢
  subst faults
  cases fault with
  | some fault => exact .error ⟨rfl, same.note _ _⟩
  | none =>
    have definitions : (block.define endLine body).seen view =
        (other.define endLine body').seen view := by
      rw [seen_define, seen_define, seen]
      simp only [Block.define, names, starts]
    obtain ⟨-, sizes, cycles⟩ := Macro.eq_of_seen_eq definitions
    dsimp only
    rw [sizes, cycles]
    generalize other.define endLine body' = definition at definitions ⊢
    cases writable (definition.size :: definition.cycles.numbers) with
    | error error => exact .error ⟨rfl, (same.note _ _).addMacro definitions⟩
    | ok done => exact .ok (((same.note _ _).addMacro definitions).note _ _)

end Progress

/-! ## Lines -/

/-- What is pending in the two scans: no macro in either, or macros with the same name that began
on the same line and whose bodies so far are alike. -/
inductive PendingAbreast (alike : Text → Text → Prop) : Pending → Pending → Prop where
  | comments {texts others : List Text} :
      PendingAbreast alike (.comments texts) (.comments others)
  | block {block other : Block} (names : block.name = other.name)
      (starts : block.startLine = other.startLine)
      (bodies : AlikeLines alike block.lines other.lines) :
      PendingAbreast alike (.block block) (.block other)

theorem pendingAfter_eq_comments (comments : List Text) (line : Line) :
    ∃ kept, pendingAfter comments line = .comments kept := by
  unfold pendingAfter
  split <;> exact ⟨_, rfl⟩

/-- Without a directory for included files, a line outside of macros does what its cue says. -/
theorem scanLine_of_cue (tree : FileTree) (scan : LineScan) (file : Option Text) (number : Nat)
    (text : Text) (comments : List Text) (progress : Progress) :
    match cue progress.scanner.recognises number text with
    | .header name =>
      scanLine tree scan none file number text (.comments comments) progress =
        .ok (.block { name, startLine := number }, progress)
    | .fails error =>
      scanLine tree scan none file number text (.comments comments) progress =
        .error ⟨.numeral error, progress⟩
    | .quiet =>
      ∃ kept routines journal,
        scanLine tree scan none file number text (.comments comments) progress =
          .ok (.comments kept, progress.besides routines journal) := by
  cases mark : landmark? (Text.trim text) with
  | none =>
    simp only [cue, mark, scanLine, Scanner.parseLine]
    cases Line.parse progress.scanner.recognises number text with
    | error error => rfl
    | ok line =>
      obtain ⟨kept, after⟩ := pendingAfter_eq_comments comments line
      refine ⟨kept, progress.scanner.routines, progress.journal, ?_⟩
      simp only [after]
      rfl
  | some landmark =>
    cases landmark with
    | header name => simp only [cue, mark, scanLine]
    | inclusion target =>
      simp only [cue, mark, scanLine]
      exact ⟨[], progress.scanner.routines, progress.journal, rfl⟩
    | label name =>
      simp only [cue, mark, scanLine]
      obtain ⟨routines, journal, changed⟩ :=
        documentLabel_eq_besides file name number comments progress
      exact ⟨[], routines, journal, by rw [changed]⟩

/-- A directory matters only to lines that include a file. -/
theorem scanLine_eq_of_not_inclusion {text : Text}
    (plain : ∀ target, landmark? (Text.trim text) ≠ some (.inclusion target)) (tree : FileTree)
    (scan : LineScan) (directory : Option Path) (file : Option Text) (number : Nat)
    (pending : Pending) (progress : Progress) :
    scanLine tree scan directory file number text pending progress =
      scanLine tree scan none file number text pending progress := by
  cases pending with
  | block block => rfl
  | comments comments =>
    simp only [scanLine]
    split
    · rename_i target mark
      exact absurd mark (plain target)
    all_goals rfl

/-- Documents are scanned without a directory, unless only the same lines are alike. -/
def Comparable (alike : Text → Text → Prop) (directory : Option Path) : Prop :=
  directory = none ∨ alike = Eq

/-- A way of scanning keeps abreast on documents whose lines are alike. -/
def KeepsAbreast (view : View) (alike : Text → Text → Prop) (table : Opcode.Table)
    (pinned : Option (Registry Macro)) (scan : LineScan) : Prop :=
  ∀ ⦃directory : Option Path⦄ ⦃file : Option Text⦄ ⦃lines others : List Text⦄
    ⦃first second : Progress⦄, Comparable alike directory → List.Forall₂ alike lines others →
    Abreast view table pinned first second →
    EndAbreast view table pinned (scan directory file lines first)
      (scan directory file others second)

section Lines

variable {view : View} {alike : Text → Text → Prop} {table : Opcode.Table}
  {pinned : Option (Registry Macro)} {tree : FileTree} {scan : LineScan}
  {first second : Progress}

/-- Both scans look for an included file at the same paths. -/
theorem scanInclusion_abreast (deeper : KeepsAbreast view alike table pinned scan)
    (equal : alike = Eq) (same : Abreast view table pinned first second) (directory : Path)
    (target : Text) :
    EndAbreast view table pinned (scanInclusion tree scan directory target first)
      (scanInclusion tree scan directory target second) := by
  cases found : resolve? tree directory target with
  | none =>
    rw [scanInclusion_of_missing scan found, scanInclusion_of_missing scan found]
    exact .ok ((same.note _ _).note _ _)
  | some path =>
    by_cases visited : tree.canonical path ∈ second.visited
    · rw [scanInclusion_of_known scan found (same.visited ▸ visited),
        scanInclusion_of_known scan found visited]
      exact .ok (same.note _ _)
    · rw [scanInclusion_of_fresh scan found (same.visited ▸ visited),
        scanInclusion_of_fresh scan found visited]
      cases tree.readLines path with
      | error error => exact .ok (((same.note _ _).visit _).note _ _)
      | ok lines =>
        refine deeper (.inr equal) ?_ (((same.note _ _).visit _).note _ _)
        rw [equal, List.forall₂_eq_eq_eq]

/-- Without a directory, lines with the same cue keep both scans abreast. -/
theorem scanLine_none_abreast (indifferent : view.Indifferent alike) (file : Option Text)
    (number : Nat) {text other : Text} (texts : alike text other) (comments others : List Text)
    (same : Abreast view table pinned first second) :
    Parallel (StoppedAbreast view table pinned)
      (fun after after' => PendingAbreast alike after.1 after'.1 ∧
        Abreast view table pinned after.2 after'.2)
      (scanLine tree scan none file number text (.comments comments) first)
      (scanLine tree scan none file number other (.comments others) second) := by
  have here := scanLine_of_cue tree scan file number text comments first
  have there := scanLine_of_cue tree scan file number other others second
  rw [same.scanner.recognises, indifferent.cue texts] at here
  cases given : cue second.scanner.recognises number other with
  | header name =>
    simp only [given] at here there
    rw [here, there]
    exact .ok ⟨.block rfl rfl .nil, same⟩
  | fails error =>
    simp only [given] at here there
    rw [here, there]
    exact .error ⟨rfl, same⟩
  | quiet =>
    simp only [given] at here there
    obtain ⟨kept, routines, journal, here⟩ := here
    obtain ⟨kept', routines', journal', there⟩ := there
    rw [here, there]
    exact .ok ⟨.comments, same.besides _ _ _ _⟩

/-- Lines that are alike keep both scans abreast. -/
theorem scanLine_abreast (indifferent : view.Indifferent alike)
    (deeper : KeepsAbreast view alike table pinned scan) {directory : Option Path}
    (comparable : Comparable alike directory) (file : Option Text) (number : Nat)
    {text other : Text} (texts : alike text other) {pending pending' : Pending}
    (pendings : PendingAbreast alike pending pending')
    (same : Abreast view table pinned first second) :
    Parallel (StoppedAbreast view table pinned)
      (fun after after' => PendingAbreast alike after.1 after'.1 ∧
        Abreast view table pinned after.2 after'.2)
      (scanLine tree scan directory file number text pending first)
      (scanLine tree scan directory file number other pending' second) := by
  cases pendings with
  | block names starts bodies =>
    simp only [scanLine, indifferent.isMacroEnd texts]
    split
    · refine (closeBlock_abreast indifferent same names starts bodies number).bind ?_
      intro after after' still
      exact .ok ⟨.comments, still⟩
    · refine .ok ⟨.block names starts ?_, same⟩
      exact List.rel_append bodies (.cons ⟨rfl, texts⟩ .nil)
  | @comments comments others =>
    cases directory with
    | none => exact scanLine_none_abreast indifferent file number texts comments others same
    | some base =>
      -- With a directory, both documents have the same line, so they include the same file.
      have equal : alike = Eq := comparable.resolve_left (Option.some_ne_none base)
      obtain rfl : text = other := by rwa [equal] at texts
      by_cases inclusion : ∃ target, landmark? (Text.trim text) = some (.inclusion target)
      · obtain ⟨target, mark⟩ := inclusion
        simp only [scanLine, mark]
        refine (scanInclusion_abreast deeper equal same base target).bind ?_
        intro after after' still
        exact .ok ⟨.comments, still⟩
      · have plain := fun target mark => inclusion ⟨target, mark⟩
        rw [scanLine_eq_of_not_inclusion plain tree scan (some base) _ _ (.comments comments),
          scanLine_eq_of_not_inclusion plain tree scan (some base) _ _ (.comments others)]
        exact scanLine_none_abreast indifferent file number texts comments others same

theorem scanLines_abreast (indifferent : view.Indifferent alike)
    (deeper : KeepsAbreast view alike table pinned scan) {directory : Option Path}
    (comparable : Comparable alike directory) (file : Option Text) (number : Nat)
    {lines others : List Text} (documents : List.Forall₂ alike lines others)
    {pending pending' : Pending} (pendings : PendingAbreast alike pending pending')
    (same : Abreast view table pinned first second) :
    EndAbreast view table pinned (scanLines tree scan directory file number lines pending first)
      (scanLines tree scan directory file number others pending' second) := by
  induction documents generalizing number pending pending' first second with
  | nil =>
    rw [scanLines, scanLines]
    cases pendings with
    | comments => exact .ok same
    | block names starts bodies => exact .ok (same.note _ _)
  | cons texts _ ih =>
    rw [scanLines, scanLines]
    refine (scanLine_abreast indifferent deeper comparable file number texts pendings same).bind ?_
    intro after after' still
    exact ih (number + 1) still.1 still.2

end Lines

/-- To whatever depth included files are followed, scans of documents that are alike go
abreast. -/
theorem keepsAbreast_scanTo {view : View} {alike : Text → Text → Prop}
    (indifferent : view.Indifferent alike) (table : Opcode.Table)
    (pinned : Option (Registry Macro)) (tree : FileTree) (depth : Nat) :
    KeepsAbreast view alike table pinned (scanTo tree depth) := by
  induction depth with
  | zero =>
    intro directory file lines others first second comparable documents same
    exact .ok same
  | succ depth ih =>
    intro directory file lines others first second comparable documents same
    exact scanLines_abreast indifferent ih comparable file 0 documents .comments same

/-- **Scans of documents that are alike go abreast.**  The scanners need to have nothing in common
but their tables and pinned macros. -/
theorem abreast_scan {view : View} {alike : Text → Text → Prop}
    (indifferent : view.Indifferent alike) {first second : Scanner}
    (tables : first.table = second.table) (pins : first.pinned = second.pinned)
    (tree : FileTree) {directory : Option Path} (comparable : Comparable alike directory)
    (file : Option Text) {lines others : List Text} (documents : List.Forall₂ alike lines others) :
    EndAbreast view second.table second.pinned (first.scan tree lines directory file)
      (second.scan tree others directory file) := by
  have cleared : Abreast view second.table second.pinned
      { scanner := { first with macros := .empty } }
      { scanner := { second with macros := .empty } } :=
    ⟨⟨⟨tables, rfl⟩, ⟨pins, rfl⟩, rfl⟩, rfl⟩
  have goes := keepsAbreast_scanTo indifferent second.table second.pinned tree
    (tree.nodes.length + 1)
  unfold Scanner.scan
  cases file with
  | none => exact goes comparable documents cleared
  | some name =>
    simp only [Option.map_some]
    split
    · exact .error ⟨rfl, cleared⟩
    · exact goes comparable documents (cleared.visit _)

end Scan

end Sm83Cost
