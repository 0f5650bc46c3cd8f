import Sm83Cost.Cost.Basic
import Sm83Cost.Cost.StartPoints
import Sm83Cost.Scan.Document

/-!
# Sessions

A session answers what a line costs, and what a document costs from its start
point on.  It keeps a configuration, an opcode table, a scanner, the start
points of documents, and the last result for each document.

The lines of a macro definition cost nothing where they stand.  They are told by
the directives that begin and end a definition.
-/

namespace Sm83Cost

set_option autoImplicit false

/-- What a series of analyses shares. -/
structure Session where
  config : Config := {}
  table : Opcode.Table := .standard
  scanner : Scanner := {}
  startPoints : StartPoints := .empty
  results : Store (List LineCost) := .empty

namespace Session

/-! ## One line -/

/-- The cost of an operation. -/
def costOf (session : Session) (line : Line) (operation : Operation) :
    Except Fault LineCost :=
  match operation.role with
  | .directive => .ok { line }
  | .data bytes => .ok { line, known := true, own := { bytes }, isData := true }
  | .predef kind =>
    let (bytes, cycles) := session.config.predefCost kind
    .ok { line, known := true, own := { bytes, cycles },
          predef := some { kind, target := operation.operands.head? } }
  | .macroCall =>
    let name := operation.mnemonic
    match session.scanner.macros.find? name with
    | none => .ok { line, macroCall := some { name } }
    | some definition => do
      let cycles ← Fault.requireCycles <|
        if session.config.assumeBranchTaken then definition.cycles.most?
        else definition.cycles.fewest?
      return { line, known := true, own := { bytes := definition.size, cycles },
               macroCall := some { name, definition := some definition } }
  | .instruction => do
    match ← Fault.ofNumeral (session.table.lookup operation.mnemonic operation.operands) with
    | none => return { line }
    | some entry =>
      let cycles ← Fault.requireCycles (entry.cycles.select? session.config.assumeBranchTaken)
      return { line, known := true, own := { bytes := entry.size, cycles }, opcode := some entry }

/-- The cost of a line that has been taken apart. -/
def resolve (session : Session) (line : Line) : Except Fault LineCost :=
  match line.operation with
  | none => .ok { line }
  | some operation => session.costOf line operation

/-- The cost of a line. -/
def lineCost (session : Session) (text : Text) (number : Int) : Except Fault LineCost := do
  let line ← Fault.ofNumeral (session.scanner.parseLine text number)
  session.resolve line

/-! ## All lines of a document -/

/-- A line of a document: part of a macro definition, or one with a cost of its own. -/
inductive Visit where
  | definition (line : Line)
  | resolved (cost : LineCost)
deriving DecidableEq, Repr

namespace Visit

/-- The cost of the line where it stands. -/
def cost : Visit → LineCost
  | .definition line => { line }
  | .resolved cost => cost

/-- A note on an instruction that is not in the table. -/
def record? : Visit → Option Record
  | .definition _ => none
  | .resolved cost =>
    cost.line.operation.bind fun operation =>
      if operation.role = .instruction ∧ cost.opcode = none then
        some (.unknownInstruction operation.mnemonic operation.operands)
      else none

end Visit

/-- The line holds the given directive. -/
def holds (directive : Text) (line : Line) : Bool :=
  line.operation.any fun operation =>
    operation.role == .directive && operation.mnemonic == directive

/-- Visits one line; `inside` tells that a macro definition is open before it.  Also tells
whether one is open after it. -/
def visitLine (session : Session) (inside : Bool) (number : Nat) (text : Text) :
    Except Fault (Visit × Bool) := do
  let line ← Fault.ofNumeral (session.scanner.parseLine text number)
  if inside || holds "MACRO" line then
    return (.definition line, !holds "ENDM" line)
  else
    let cost ← session.resolve line
    return (.resolved cost, false)

/-- Visits lines in order up to the first that cannot be. -/
def visitLines (session : Session) : (inside : Bool) → Nat → List Text →
    List Visit × Option Fault
  | _, _, [] => ([], none)
  | inside, number, text :: rest =>
    match session.visitLine inside number text with
    | .error fault => ([], some fault)
    | .ok (visit, inside) =>
      let (others, fault) := session.visitLines inside (number + 1) rest
      (visit :: others, fault)

/-- Marks the lines from the start point on as counted and carries the running total along. -/
def tally (start : Option Int) : Nat → (counting : Bool) → Cost → List LineCost → List LineCost
  | _, _, _, [] => []
  | number, counting, total, cost :: rest =>
    let counting := counting || start == some (number : Int)
    if counting then
      let total := if cost.known then total + cost.own else total
      { cost with counting := true, running := total } ::
        tally start (number + 1) true total rest
    else cost :: tally start (number + 1) false total rest

/-- Counting keeps every line. -/
@[simp]
theorem length_tally (start : Option Int) (number : Nat) (counting : Bool) (total : Cost)
    (costs : List LineCost) : (tally start number counting total costs).length = costs.length := by
  induction costs generalizing number counting total with
  | nil => rfl
  | cons cost rest ih =>
    simp only [tally]
    split <;> simp [ih]

/-- All lines are visited when none of them fails. -/
theorem length_visitLines (session : Session) (inside : Bool) (number : Nat) (lines : List Text)
    (complete : (session.visitLines inside number lines).2 = none) :
    (session.visitLines inside number lines).1.length = lines.length := by
  induction lines generalizing inside number with
  | nil => rfl
  | cons text rest ih =>
    rw [visitLines] at complete ⊢
    cases visited : session.visitLine inside number text with
    | error fault => simp [visited] at complete
    | ok result =>
      simp only [visited] at complete ⊢
      simp [ih result.2 (number + 1) complete]

/-! ## Analysis -/

/-- The session after an operation, its notes, and its result. -/
structure Outcome (α : Type) where
  session : Session
  journal : List Record := []
  result : Except Fault α

/-- Scans a document for macros and routines. -/
def scan (session : Session) (tree : FileTree) (lines : List Text) (directory : Option Path)
    (file : Option Text) : Outcome Unit :=
  match session.scanner.scan tree lines directory file with
  | .ok progress =>
    { session := { session with scanner := progress.scanner }, journal := progress.journal,
      result := .ok () }
  | .error stopped =>
    { session := { session with scanner := stopped.progress.scanner },
      journal := stopped.progress.journal, result := .error stopped.fault }

/-- The cost of each line of a document with the macros known now.  The result is kept before
its totals are noted. -/
def countLines (session : Session) (lines : List Text) (file : Option Text) :
    Outcome (List LineCost) :=
  let start := session.startPoints.startOf? file
  let (visits, fault) := session.visitLines false 0 lines
  let journal := visits.filterMap Visit.record?
  match fault with
  | some fault => { session, journal, result := .error fault }
  | none =>
    let costs := tally start 0 start.isNone {} (visits.map Visit.cost)
    let total := totals costs
    let kept := { session with results := session.results.put (documentKey file) costs }
    match Scan.writable [total.bytes, total.cycles] with
    | .error error => { session := kept, journal, result := .error (.numeral error) }
    | .ok _ =>
      let record := Record.analysed (documentKey file) lines.length total.bytes total.cycles
      { session := kept, journal := journal ++ [record], result := .ok costs }

/-- Analyses a document: scans it first, if asked to, and then counts its lines. -/
def analyse (session : Session) (tree : FileTree) (lines : List Text) (file : Option Text)
    (directory : Option Path) (rescan : Bool) : Outcome (List LineCost) :=
  if rescan then
    let scanned := session.scan tree lines directory file
    match scanned.result with
    | .error fault =>
      { session := scanned.session, journal := scanned.journal, result := .error fault }
    | .ok _ =>
      let counted := scanned.session.countLines lines file
      { counted with journal := scanned.journal ++ counted.journal }
  else session.countLines lines file

/-- The last result for a document. -/
def resultOf? (session : Session) (file : Option Text) : Option (List LineCost) :=
  session.results.get? (documentKey file)

/-! ## Changes from outside -/

/-- Registers a macro by hand. -/
def registerMacro (session : Session) (definition : Macro) : Session :=
  { session with
      scanner := { session.scanner with macros := session.scanner.macros.register definition } }

/-- Gives the scanner fresh macros, while lines are taken apart with those of now. -/
def detachMacros (session : Session) : Session :=
  { session with scanner := session.scanner.detach }

/-- Forgets all macros and routines. -/
def clearScanner (session : Session) : Session :=
  { session with scanner := session.scanner.clear }

end Session

end Sm83Cost
