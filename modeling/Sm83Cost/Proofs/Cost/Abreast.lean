import Sm83Cost.Cost.Session
import Sm83Cost.Proofs.Scan.Abreast

/-!
# Analyses that go abreast

What holds of scans holds of analyses.  Two sessions with the same settings
analyse two documents whose lines are alike.  A view that is indifferent to the
difference sees the same result: the analyses fail alike, or each line has the
same cost, running totals and origin of its cost included (`analyse_abreast`).

Through a view a cost shows everything but the texts of its line, of the target
of a call that switches banks, and of the body of a macro; these are seen the
way the view sees them.
-/

namespace Sm83Cost

set_option autoImplicit false

/-! ## Costs through a view -/

/-- A call of a macro through a view. -/
def MacroCall.seen (view : View) (call : MacroCall) : MacroCall :=
  { call with definition := call.definition.map (Macro.seen view) }

/-- A call that switches banks through a view. -/
def PredefCall.seen (view : View) (call : PredefCall) : PredefCall :=
  { call with target := call.target.map view.spelling }

/-- The cost of a line through a view. -/
def LineCost.seen (view : View) (cost : LineCost) : LineCost :=
  { cost with
      line := cost.line.seen view
      macroCall := cost.macroCall.map (MacroCall.seen view)
      predef := cost.predef.map (PredefCall.seen view) }

@[simp]
theorem LineCost.seen_whole : LineCost.seen .whole = id := by
  funext cost
  have calls : MacroCall.seen .whole = id := by
    funext call
    simp [MacroCall.seen]
  have predefs : PredefCall.seen .whole = id := by
    funext call
    simp [PredefCall.seen, View.whole]
  simp [LineCost.seen, calls, predefs]

namespace Session

/-- A directive is seen through every view. -/
theorem holds_seen (view : View) (directive : Text) (line : Line) :
    holds directive (line.seen view) = holds directive line := by
  cases found : line.operation with
  | none => simp [holds, Line.seen, found]
  | some operation => simp [holds, Line.seen, found, Operation.seen]

theorem holds_of_seen_eq {view : View} {line other : Line}
    (alike : line.seen view = other.seen view) (directive : Text) :
    holds directive line = holds directive other := by
  rw [← holds_seen view, alike, holds_seen]

/-! ## Counting -/

/-- Counting takes no account of what a view hides. -/
theorem map_seen_tally (view : View) (start : Option Int) (number : Nat) (counting : Bool)
    (total : Cost) (costs : List LineCost) :
    (tally start number counting total costs).map (LineCost.seen view) =
      tally start number counting total (costs.map (LineCost.seen view)) := by
  induction costs generalizing number counting total with
  | nil => rfl
  | cons cost rest ih =>
    rw [tally, List.map_cons, tally]
    dsimp only
    split
    · rw [List.map_cons, ih]
      rfl
    · rw [List.map_cons, ih]

theorem totals_map_seen (view : View) (costs : List LineCost) :
    totals (costs.map (LineCost.seen view)) = totals costs := by
  rw [totals, List.map_map]
  rfl

/-! ## Lines -/

section Lines

variable {view : View} {alike : Text → Text → Prop} {table : Opcode.Table}
  {pinned : Option (Registry Macro)} {first second : Session}

/-- Operations that look alike cost the same. -/
theorem costOf_abreast (indifferent : view.Indifferent alike)
    (configs : first.config = second.config) (tables : first.table = second.table)
    (scanners : Scanner.Abreast view table pinned first.scanner second.scanner)
    {line other : Line} (lines : line.seen view = other.seen view)
    {operation operation' : Operation}
    (operations : operation.seen view = operation'.seen view) :
    Parallel Eq (fun cost cost' => LineCost.seen view cost = LineCost.seen view cost')
      (first.costOf line operation) (second.costOf other operation') := by
  obtain ⟨mnemonics, operands, roles⟩ := Operation.seen_eq_iff.1 operations
  rw [costOf, costOf, mnemonics, roles]
  cases operation'.role with
  | directive => exact .ok (by simp [LineCost.seen, lines])
  | data bytes => exact .ok (by simp [LineCost.seen, lines])
  | predef kind =>
    have targets : operation.operands.head?.map view.spelling =
        operation'.operands.head?.map view.spelling := by
      rw [← List.head?_map, operands, List.head?_map]
    simp only [configs]
    exact .ok (by simp [LineCost.seen, lines, PredefCall.seen, targets])
  | macroCall =>
    obtain ⟨here, there⟩ | ⟨definition, definition', here, there, seen⟩ :=
      scanners.find? operation'.mnemonic
    · simp only [here, there]
      exact .ok (by simp [LineCost.seen, lines])
    · obtain ⟨-, sizes, cycles⟩ := Macro.eq_of_seen_eq seen
      simp only [here, there, configs, sizes, cycles]
      refine Parallel.bind (.refl (fun _ => rfl) (fun _ => rfl) _) ?_
      rintro number _ rfl
      exact .ok (by simp [LineCost.seen, lines, MacroCall.seen, seen])
  | instruction =>
    simp only [tables, indifferent.lookup operands]
    refine Parallel.bind (.refl (fun _ => rfl) (fun _ => rfl) _) ?_
    rintro entry _ rfl
    cases entry with
    | none => exact .ok (by simp [LineCost.seen, lines])
    | some entry =>
      simp only [configs]
      refine Parallel.bind (.refl (fun _ => rfl) (fun _ => rfl) _) ?_
      rintro number _ rfl
      exact .ok (by simp [LineCost.seen, lines])

theorem resolve_abreast (indifferent : view.Indifferent alike)
    (configs : first.config = second.config) (tables : first.table = second.table)
    (scanners : Scanner.Abreast view table pinned first.scanner second.scanner)
    {line other : Line} (lines : line.seen view = other.seen view) :
    Parallel Eq (fun cost cost' => LineCost.seen view cost = LineCost.seen view cost')
      (first.resolve line) (second.resolve other) := by
  rw [resolve, resolve]
  obtain ⟨here, there⟩ | ⟨operation, operation', here, there, operations⟩ :=
    Line.operation_of_seen_eq lines
  · rw [here, there]
    exact .ok (by simp [LineCost.seen, lines])
  · rw [here, there]
    exact costOf_abreast indifferent configs tables scanners lines operations

/-- Lines that are alike are visited alike. -/
theorem visitLine_abreast (indifferent : view.Indifferent alike)
    (configs : first.config = second.config) (tables : first.table = second.table)
    (scanners : Scanner.Abreast view table pinned first.scanner second.scanner) (inside : Bool)
    (number : Nat) {text other : Text} (texts : alike text other) :
    Parallel Eq (fun visit visit' =>
        LineCost.seen view visit.1.cost = LineCost.seen view visit'.1.cost ∧ visit.2 = visit'.2)
      (first.visitLine inside number text) (second.visitLine inside number other) := by
  refine Parallel.bind (scanners.parseLine indifferent texts number).ofNumeral ?_
  intro line line' lines
  rw [holds_of_seen_eq lines, holds_of_seen_eq lines]
  split
  · exact .ok ⟨by simp [Visit.cost, LineCost.seen, lines], rfl⟩
  · refine Parallel.bind (resolve_abreast indifferent configs tables scanners lines) ?_
    intro cost cost' seen
    exact .ok ⟨seen, rfl⟩

/-- Documents whose lines are alike are visited alike, up to the same line. -/
theorem visitLines_abreast (indifferent : view.Indifferent alike)
    (configs : first.config = second.config) (tables : first.table = second.table)
    (scanners : Scanner.Abreast view table pinned first.scanner second.scanner) (inside : Bool)
    (number : Nat) {lines others : List Text} (documents : List.Forall₂ alike lines others) :
    ((first.visitLines inside number lines).1.map Visit.cost).map (LineCost.seen view) =
        ((second.visitLines inside number others).1.map Visit.cost).map (LineCost.seen view) ∧
      (first.visitLines inside number lines).2 = (second.visitLines inside number others).2 := by
  induction documents generalizing inside number with
  | nil => exact ⟨rfl, rfl⟩
  | @cons text other rest others texts _ ih =>
    have together := visitLine_abreast indifferent configs tables scanners inside number texts
    rw [visitLines, visitLines]
    generalize first.visitLine inside number text = visited at together ⊢
    generalize second.visitLine inside number other = visited' at together ⊢
    cases together with
    | error causes => exact ⟨rfl, congrArg some causes⟩
    | @ok visit visit' seen =>
      obtain ⟨costs, after⟩ := seen
      obtain ⟨seen, faults⟩ := ih visit'.2 (number + 1)
      simp only [after, List.map_cons, costs, seen]
      exact ⟨trivial, faults⟩

end Lines

/-! ## Documents -/

section Documents

variable {view : View} {alike : Text → Text → Prop} {first second : Session}

/-- What a view sees of a result. -/
abbrev look (view : View) : List LineCost → List LineCost := List.map (LineCost.seen view)

/-- Counting the lines of documents that are alike gives results that look alike, and so do the
results that are kept. -/
theorem countLines_abreast (indifferent : view.Indifferent alike)
    (configs : first.config = second.config) (tables : first.table = second.table)
    {table : Opcode.Table} {pinned : Option (Registry Macro)}
    (scanners : Scanner.Abreast view table pinned first.scanner second.scanner)
    {file : Option Text}
    (starts : first.startPoints.startOf? file = second.startPoints.startOf? file)
    {lines others : List Text} (documents : List.Forall₂ alike lines others) :
    (first.countLines lines file).result.map (look view) =
        (second.countLines others file).result.map (look view) ∧
      ((first.resultOf? file).map (look view) = (second.resultOf? file).map (look view) →
        ((first.countLines lines file).session.resultOf? file).map (look view) =
          ((second.countLines others file).session.resultOf? file).map (look view)) := by
  obtain ⟨seen, faults⟩ :=
    visitLines_abreast indifferent configs tables scanners false 0 documents
  unfold countLines
  rw [starts]
  generalize first.visitLines false 0 lines = visited at seen faults ⊢
  generalize second.visitLines false 0 others = visited' at seen faults ⊢
  obtain ⟨visits, fault⟩ := visited
  obtain ⟨visits', fault'⟩ := visited'
  dsimp only at seen faults ⊢
  subst faults
  cases fault with
  | some fault => exact ⟨rfl, id⟩
  | none =>
    generalize second.startPoints.startOf? file = start
    have counted : look view (tally start 0 start.isNone {} (visits.map Visit.cost)) =
        look view (tally start 0 start.isNone {} (visits'.map Visit.cost)) := by
      rw [look, map_seen_tally, seen, ← map_seen_tally]
    generalize tally start 0 start.isNone {} (visits.map Visit.cost) = costs at counted ⊢
    generalize tally start 0 start.isNone {} (visits'.map Visit.cost) = costs' at counted ⊢
    have total : totals costs = totals costs' := calc
      totals costs = totals (look view costs) := (totals_map_seen view costs).symm
      _ = totals (look view costs') := by rw [counted]
      _ = totals costs' := totals_map_seen view costs'
    dsimp only
    rw [total]
    cases Scan.writable [(totals costs').bytes, (totals costs').cycles] with
    | error error => exact ⟨rfl, fun _ => by simpa [resultOf?] using counted⟩
    | ok done =>
      exact ⟨congrArg Except.ok counted, fun _ => by simpa [resultOf?] using counted⟩

/-- A scan changes only the scanner of a session. -/
theorem scan_session (session : Session) (tree : FileTree) (lines : List Text)
    (directory : Option Path) (file : Option Text) :
    (session.scan tree lines directory file).session =
      { session with scanner := (session.scan tree lines directory file).session.scanner } := by
  unfold scan
  split <;> rfl

/-- Counting lines changes no more than the result of the document. -/
theorem countLines_session (session : Session) (lines : List Text) (file : Option Text) :
    ∃ results, (session.countLines lines file).session = { session with results } ∧
      ∀ key, key ≠ documentKey file → results.get? key = session.results.get? key := by
  unfold countLines
  dsimp only
  split
  · exact ⟨session.results, rfl, fun _ _ => rfl⟩
  · split <;> exact ⟨_, rfl, fun key other => Store.get?_put_of_ne session.results other _⟩

/-- Scanning documents that are alike leaves the scanners abreast and has the same outcome. -/
theorem scan_abreast (indifferent : view.Indifferent alike)
    (tables : first.scanner.table = second.scanner.table)
    (pins : first.scanner.pinned = second.scanner.pinned) (tree : FileTree)
    {directory : Option Path} (comparable : Scan.Comparable alike directory) (file : Option Text)
    {lines others : List Text} (documents : List.Forall₂ alike lines others) :
    Scanner.Abreast view second.scanner.table second.scanner.pinned
        (first.scan tree lines directory file).session.scanner
        (second.scan tree others directory file).session.scanner ∧
      (first.scan tree lines directory file).result =
        (second.scan tree others directory file).result := by
  have together := Scan.abreast_scan indifferent tables pins tree comparable file documents
  unfold scan
  generalize first.scanner.scan tree lines directory file = scanned at together ⊢
  generalize second.scanner.scan tree others directory file = scanned' at together ⊢
  cases together with
  | ok same => exact ⟨same.scanner, rfl⟩
  | error same => exact ⟨same.progress.scanner, congrArg Except.error same.fault⟩

/-- **Analyses of documents that are alike go abreast.**  The sessions have the same settings and
the same start point for the document.  Both analyses fail in the same way, or their results look
alike, and the results that are kept look alike afterwards if they did before. -/
theorem analyse_abreast (indifferent : view.Indifferent alike)
    (configs : first.config = second.config) (tables : first.table = second.table)
    (opcodes : first.scanner.table = second.scanner.table)
    (pins : first.scanner.pinned = second.scanner.pinned) {file : Option Text}
    (starts : first.startPoints.startOf? file = second.startPoints.startOf? file)
    (tree : FileTree) {directory : Option Path} (comparable : Scan.Comparable alike directory)
    {lines others : List Text} (documents : List.Forall₂ alike lines others) :
    (first.analyse tree lines file directory true).result.map (look view) =
        (second.analyse tree others file directory true).result.map (look view) ∧
      ((first.resultOf? file).map (look view) = (second.resultOf? file).map (look view) →
        ((first.analyse tree lines file directory true).session.resultOf? file).map (look view) =
          ((second.analyse tree others file directory true).session.resultOf? file).map
            (look view)) := by
  obtain ⟨scanners, outcome⟩ :=
    scan_abreast indifferent opcodes pins tree comparable file documents
  have here := scan_session first tree lines directory file
  have there := scan_session second tree others directory file
  simp only [analyse, if_true, outcome]
  generalize first.scan tree lines directory file = scanned at here scanners ⊢
  generalize second.scan tree others directory file = scanned' at there scanners ⊢
  cases scanned'.result with
  | error fault =>
    refine ⟨rfl, fun kept => ?_⟩
    rw [here, there]
    exact kept
  | ok done =>
    have points : scanned.session.startPoints.startOf? file =
        scanned'.session.startPoints.startOf? file := by
      rw [here, there]
      exact starts
    have counted := countLines_abreast indifferent (by rw [here, there]; exact configs)
      (by rw [here, there]; exact tables) scanners points documents
    refine ⟨counted.1, fun kept => counted.2 ?_⟩
    rw [here, there]
    exact kept

end Documents

end Session

end Sm83Cost
