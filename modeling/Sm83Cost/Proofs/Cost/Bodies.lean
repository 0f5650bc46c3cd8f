import Sm83Cost.Proofs.Cost.Branches

/-!
# A macro costs what the lines of its body cost

The cost of a macro is summed once, when its block ends, and the sum keeps apart
the cases of branches that are taken and not taken.  The cost of a line in a
document is looked up where the line stands, under one assumption on branches.
Both ask for the cost of an operation, each in its own words, and they agree on
every kind of operation (`measureOperation_alongside`).

So pasting the body of a macro into a document costs what the macro costs
(`closeBlock_costs_its_lines`).  The one exception are calls that switch banks:
they cost what the configuration says, and add nothing to a macro.

The table may be any whose entries list one or two numbers of cycles.  With three,
a branch that is not taken takes the second for a line and the last for a macro.
-/

namespace Sm83Cost

set_option autoImplicit false

/-! ## Cycles of entries -/

namespace Cycles

/-- One number of cycles is listed, or two. -/
def IsOrdinary (cycles : Cycles) : Prop :=
  cycles.numbers.length = 1 ∨ cycles.numbers.length = 2

instance : DecidablePred IsOrdinary := fun _ => inferInstanceAs (Decidable (_ ∨ _))

/-- With one number or two, a branch that is not taken takes the last one. -/
theorem IsOrdinary.exists_bounds? {cycles : Cycles} (ordinary : cycles.IsOrdinary) :
    ∃ most fewest, cycles.bounds? = some (most, fewest) ∧
      cycles.select? true = some most ∧ cycles.select? false = some fewest := by
  obtain ⟨numbers⟩ := cycles
  match numbers, ordinary with
  | [number], _ => exact ⟨number, number, rfl, rfl, rfl⟩
  | [taken, untaken], _ => exact ⟨taken, untaken, rfl, rfl, rfl⟩

/-- Both bounds are known, or no number is listed at all. -/
theorem bounds?_cases (cycles : Cycles) :
    (cycles.bounds? = none ∧ cycles.most? = none ∧ cycles.fewest? = none) ∨
      ∃ most fewest, cycles.bounds? = some (most, fewest) ∧ cycles.most? = some most ∧
        cycles.fewest? = some fewest := by
  obtain ⟨numbers⟩ := cycles
  cases numbers with
  | nil => exact .inl ⟨rfl, rfl, rfl⟩
  | cons first rest =>
    have last : fewest? ⟨first :: rest⟩ = some _ :=
      List.getLast?_eq_some_getLast (List.cons_ne_nil first rest)
    exact .inr ⟨first, _, bounds?_eq_some.2 ⟨rfl, last⟩, rfl, last⟩

theorem length_ofTotals (most fewest : Int) :
    (ofTotals most fewest).numbers.length = 2 ↔ most ≠ fewest := by
  rw [ofTotals]
  split
  · next same => exact iff_of_false (by decide : ¬ 1 = 2) (not_not.2 same)
  · next differs => exact iff_of_true rfl differs

end Cycles

/-! ## What a line adds to a body -/

/-- What a measured line adds under an assumption on branches. -/
def Scan.BodyLine.cost (taken : Bool) (measured : Scan.BodyLine) : Cost where
  bytes := measured.size
  cycles := if taken then measured.most else measured.fewest

/-- The cost of a line, unless it is a call that switches banks. -/
def LineCost.inBody (cost : LineCost) : Cost :=
  if cost.predef.isNone then cost.own else 0

/-- The cost of lines put one after the other, calls that switch banks left out. -/
def pasted (costs : List LineCost) : Cost :=
  ((costs.filter (·.predef.isNone)).map LineCost.own).sum

theorem pasted_cons (cost : LineCost) (rest : List LineCost) :
    pasted (cost :: rest) = cost.inBody + pasted rest := by
  rw [pasted, LineCost.inBody, List.filter_cons]
  split
  · rfl
  · exact Cost.ext (Int.zero_add _).symm (Int.zero_add _).symm

/-- The sums over a measured body are those over its lines. -/
theorem sums_eq_pasted {taken : Bool} {body : List Scan.BodyLine} {costs : List LineCost}
    (lines : List.Forall₂ (fun measured cost => measured.cost taken = cost.inBody) body costs) :
    (body.map Scan.BodyLine.size).foldr (· + ·) 0 = (pasted costs).bytes ∧
      (body.map fun measured => (measured.cost taken).cycles).foldr (· + ·) 0 =
        (pasted costs).cycles := by
  induction lines with
  | nil => exact ⟨rfl, rfl⟩
  | @cons measured cost body costs here _ ih =>
    rw [pasted_cons, ← here]
    exact ⟨congrArg (measured.size + ·) ih.1, congrArg ((measured.cost taken).cycles + ·) ih.2⟩

namespace Session

/-- The costs of numbered lines, up to the first that has none. -/
def lineCosts (session : Session) (lines : List (Nat × Text)) : Except Fault (List LineCost) :=
  lines.mapM fun numbered => session.lineCost numbered.2 numbered.1

section Lines

variable {session : Session} {scanner : Scanner} (scanners : session.scanner = scanner)
  (tables : session.table = scanner.table)
  (ordinary : ∀ entry ∈ session.table.held, entry.cycles.IsOrdinary)
include scanners tables ordinary

/-- An operation adds to a body what it costs on a line of a document. -/
theorem measureOperation_alongside (taken : Bool) (line : Line) (operation : Operation) :
    Parallel Eq (fun measured cost => measured.cost taken = cost.inBody)
      (Scan.measureOperation scanner line operation)
      ((session.assuming taken).costOf line operation) := by
  have nothing : ∀ record, Scan.BodyLine.cost taken { line, record } = 0 := by
    intro record
    cases taken <;> rfl
  rw [Scan.measureOperation, costOf]
  simp only [assuming, under]
  cases operation.role with
  | data bytes =>
    refine .ok ?_
    cases taken <;> rfl
  | directive => exact .ok (nothing none)
  | predef kind => exact .ok (nothing none)
  | macroCall =>
    rw [scanners]
    cases scanner.macros.find? operation.mnemonic with
    | none => exact .ok (nothing none)
    | some nested =>
      show Parallel Eq _ (Fault.requireCycles nested.cycles.bounds? >>= fun _ => _)
        (Fault.requireCycles (if taken then nested.cycles.most? else nested.cycles.fewest?) >>=
          fun _ => _)
      rcases nested.cycles.bounds?_cases with
        ⟨bounds, first, last⟩ | ⟨most, fewest, bounds, first, last⟩
      · -- A macro that was registered by hand may list no cycles.
        rw [bounds, first, last, ite_self]
        exact .error rfl
      · rw [bounds, first, last]
        cases taken <;> exact .ok rfl
  | instruction =>
    rw [tables] at ordinary ⊢
    cases looked : scanner.table.lookup operation.mnemonic operation.operands with
    | error error => exact .error rfl
    | ok entry =>
      cases entry with
      | none => exact .ok (nothing _)
      | some entry =>
        obtain ⟨most, fewest, bounds, first, last⟩ :=
          (ordinary entry (Opcode.Table.mem_held_of_lookup looked)).exists_bounds?
        show Parallel Eq _ (Fault.requireCycles entry.cycles.bounds? >>= fun _ => _)
          (Fault.requireCycles (entry.cycles.select? taken) >>= fun _ => _)
        rw [bounds]
        cases taken with
        | true =>
          rw [first]
          exact .ok rfl
        | false =>
          rw [last]
          exact .ok rfl

/-- A line of a body adds to it what the line costs in a document. -/
theorem measure_alongside (taken : Bool) (numbered : Nat × Text) :
    Parallel Eq (fun measured cost => measured.cost taken = cost.inBody)
      (Scan.measure scanner numbered)
      ((session.assuming taken).lineCost numbered.2 numbered.1) := by
  have parsed : (session.assuming taken).scanner = scanner := scanners
  rw [Scan.measure, lineCost, parsed]
  refine (Parallel.refl (fun _ => rfl) (fun _ => rfl) _).bind ?_
  rintro line _ rfl
  rw [resolve]
  cases line.operation with
  | none =>
    refine .ok ?_
    cases taken <;> rfl
  | some operation => exact measureOperation_alongside scanners tables ordinary taken line operation

/-- A body is measured line by line as its lines are costed, up to the first that fails. -/
theorem measureAll_alongside (taken : Bool) (lines : List (Nat × Text)) :
    (∃ fault, (Scan.measureAll scanner lines).2 = some fault ∧
      (session.assuming taken).lineCosts lines = .error fault) ∨
    ∃ costs, (Scan.measureAll scanner lines).2 = none ∧
      (session.assuming taken).lineCosts lines = .ok costs ∧
      List.Forall₂ (fun measured cost => measured.cost taken = cost.inBody)
        (Scan.measureAll scanner lines).1 costs := by
  induction lines with
  | nil => exact .inr ⟨[], rfl, rfl, .nil⟩
  | cons first rest ih =>
    have here := measure_alongside scanners tables ordinary taken first
    rw [Scan.measureAll, lineCosts, List.mapM_cons, ← lineCosts]
    generalize Scan.measure scanner first = measured at here ⊢
    generalize (session.assuming taken).lineCost first.2 first.1 = costed at here ⊢
    cases here with
    | @error cause other same => exact .inl ⟨cause, rfl, congrArg Except.error same.symm⟩
    | @ok measured cost same =>
      rcases ih with ⟨fault, failed, stopped⟩ | ⟨costs, complete, found, others⟩
      · exact .inl ⟨fault, failed, by rw [stopped]; rfl⟩
      · exact .inr ⟨cost :: costs, complete, by rw [found]; rfl, .cons same others⟩

end Lines

end Session

/-! ## Blocks -/

/-- What a scan has found when it goes on or is given up. -/
def Scan.reached : Except Scan.Stopped Scan.Progress → Scan.Progress
  | .ok progress => progress
  | .error stopped => stopped.progress

namespace Session

/-- **Pasting the body of a macro costs what calling the macro costs.**  A block ends while a
session has the scanner's macros and looks instructions up in the same table, whose entries list one
or two numbers of cycles.  Either some line of the block has no cost, under both assumptions on
branches for the same reason, for which the block is not registered; or the block is registered
under its name, whether or not its cost can be noted, with the size of its pasted lines and with
their cycles for branches that are taken and not taken, and it lists two numbers exactly if these
differ. -/
theorem closeBlock_costs_its_lines (session : Session) (block : Scan.Block) (endLine : Nat)
    (progress : Scan.Progress) (scanners : session.scanner = progress.scanner)
    (tables : session.table = progress.scanner.table)
    (ordinary : ∀ entry ∈ session.table.held, entry.cycles.IsOrdinary) :
    (∃ fault stopped, (∀ taken, (session.assuming taken).lineCosts block.lines = .error fault) ∧
      Scan.closeBlock block endLine progress = .error stopped ∧ stopped.fault = fault ∧
      stopped.progress.scanner = progress.scanner) ∨
    ∃ definition taken untaken,
      (session.assuming true).lineCosts block.lines = .ok taken ∧
      (session.assuming false).lineCosts block.lines = .ok untaken ∧
      (Scan.reached (Scan.closeBlock block endLine progress)).scanner =
        { progress.scanner with macros := progress.scanner.macros.register definition } ∧
      definition.name = block.name ∧
      definition.size = (pasted taken).bytes ∧ definition.size = (pasted untaken).bytes ∧
      definition.cycles.most? = some (pasted taken).cycles ∧
      definition.cycles.fewest? = some (pasted untaken).cycles ∧
      (definition.cycles.numbers.length = 2 ↔ (pasted taken).cycles ≠ (pasted untaken).cycles) := by
  have lines := fun taken =>
    measureAll_alongside scanners tables ordinary taken block.lines
  rcases Scan.closeBlock_cases block endLine progress with
    ⟨fault, failed, records, stopped⟩ | ⟨complete, records, closed⟩
  · refine .inl ⟨fault, _, fun taken => ?_, stopped, rfl, rfl⟩
    rcases lines taken with ⟨fault', failed', costed⟩ | ⟨costs, complete, -⟩
    · rw [failed] at failed'
      cases failed'
      exact costed
    · rw [failed] at complete
      cases complete
  · have costed : ∀ taken, ∃ costs, (session.assuming taken).lineCosts block.lines = .ok costs ∧
        List.Forall₂ (fun measured cost => measured.cost taken = cost.inBody)
          (Scan.measureAll progress.scanner block.lines).1 costs := by
      intro taken
      rcases lines taken with ⟨fault, failed, -⟩ | ⟨costs, -, costed, found⟩
      · rw [complete] at failed
        cases failed
      · exact ⟨costs, costed, found⟩
    obtain ⟨taken, high, takes⟩ := costed true
    obtain ⟨untaken, low, leaves⟩ := costed false
    obtain ⟨size, most⟩ := sums_eq_pasted takes
    obtain ⟨size', fewest⟩ := sums_eq_pasted leaves
    refine .inr ⟨block.define endLine (Scan.measureAll progress.scanner block.lines).1, taken,
      untaken, high, low, ?_, rfl, size, size', ?_, ?_, ?_⟩
    · rw [closed]
      split <;> rfl
    · exact (Cycles.most?_ofTotals _ _).trans (congrArg some most)
    · exact (Cycles.fewest?_ofTotals _ _).trans (congrArg some fewest)
    · rw [← most, ← fewest]
      exact Cycles.length_ofTotals _ _

/-- A body with a relative jump, a call of a macro, a bit that is set and a symbol that is, data, a
call that switches banks, an instruction that is not in the table, and a line without code. -/
theorem closeBlock_costs_its_lines_of_every_kind :
    let wait : Macro :=
      { name := "WAIT", startLine := 0, endLine := 2, size := 2, cycles := ⟨[12, 8]⟩ }
    let scanner : Scanner := { macros := Registry.register .empty wait }
    let session : Session := { scanner }
    let block : Scan.Block := { name := "DELAY", startLine := 3, lines :=
      [(4, " jr nz, .again".toList), (5, " Wait".toList), (6, " set 0, a".toList),
        (7, " set 3".toList), (8, " db 1, \"ab\"".toList), (9, " predef Heal".toList),
        (10, " ld bc".toList), (11, "; done".toList)] }
    ∃ definition taken untaken,
      (session.assuming true).lineCosts block.lines = .ok taken ∧
      (session.assuming false).lineCosts block.lines = .ok untaken ∧
      (Scan.reached (Scan.closeBlock block 12 { scanner })).scanner =
        { scanner with macros := scanner.macros.register definition } ∧
      definition.size = 9 ∧ definition.cycles.most? = some 32 ∧
      definition.cycles.fewest? = some 24 ∧ definition.cycles.numbers.length = 2 := by
  intro wait scanner session block
  have ordinary : ∀ entry ∈ session.table.held, entry.cycles.IsOrdinary := by decide +kernel
  have slow : ((session.assuming true).lineCosts block.lines).map pasted =
      .ok { bytes := 9, cycles := 32 } := by decide
  have fast : ((session.assuming false).lineCosts block.lines).map pasted =
      .ok { bytes := 9, cycles := 24 } := by decide
  rcases closeBlock_costs_its_lines session block 12 { scanner } rfl rfl ordinary with
    ⟨fault, stopped, failed, -⟩ |
    ⟨definition, taken, untaken, high, low, registered, -, size, -, most, fewest, two⟩
  · rw [failed true] at slow
    cases slow
  · rw [high] at slow
    rw [low] at fast
    have pasted := Except.ok.inj slow
    have pasted' := Except.ok.inj fast
    rw [pasted] at size most two
    rw [pasted'] at fewest two
    exact ⟨definition, taken, untaken, high, low, registered, size, most, fewest, two.2 (by decide)⟩

end Session

end Sm83Cost
