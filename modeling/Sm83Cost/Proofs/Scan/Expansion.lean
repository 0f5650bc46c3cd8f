import Mathlib.Algebra.BigOperators.Group.List.Basic
import Mathlib.Algebra.Ring.Int.Defs
import Sm83Cost.Proofs.Line.Parse
import Sm83Cost.Proofs.Scan.Steps
import Sm83Cost.Proofs.Store.Related

/-!
# Macros stand for the lines they expand to

A scan keeps three numbers for each macro: its size, and the most and the fewest
cycles.  Another way to know what a macro costs is to keep the lines that it
stands for.  When a macro ends, every line of its body that calls a macro known
at that moment is replaced by the lines kept for that macro, and the result is
kept under the new name.  Nothing is left to be looked up later, so the cost of
the macro is the sum over its lines.

`Expansion.ofDocument` walks over a document and the files that it includes in
this way.  The two walks keep step with each other (`keepStep_scanTo`), and the
numbers of every macro are the sums over the lines it stands for
(`macros_cost_their_expansions`), whatever was redefined, called before its
definition, or defined in an included file.
-/

namespace Sm83Cost.Scan

set_option autoImplicit false

/-! ## The cost of lines -/

namespace Expansion

/-- The entry of the table for a line, if the line holds an instruction. -/
def entryOf? (table : Opcode.Table) (line : Line) : Option Opcode.Entry :=
  line.operation.bind fun operation =>
    if operation.role = .instruction then
      (table.lookup operation.mnemonic operation.operands).toOption.join
    else none

/-- The bytes of a line: those of its data, or the size of its instruction. -/
def bytesOf (table : Opcode.Table) (line : Line) : Int :=
  match line.operation.map Operation.role with
  | some (.data bytes) => bytes
  | _ => (entryOf? table line).elim 0 Opcode.Entry.size

/-- The first number of cycles of the instruction on a line. -/
def mostOf (table : Opcode.Table) (line : Line) : Int :=
  ((entryOf? table line).bind fun entry => entry.cycles.numbers.head?).getD 0

/-- The last number of cycles of the instruction on a line. -/
def fewestOf (table : Opcode.Table) (line : Line) : Int :=
  ((entryOf? table line).bind fun entry => entry.cycles.numbers.getLast?).getD 0

/-- The line calls no macro. -/
def Primitive (line : Line) : Prop :=
  ∀ operation, line.operation = some operation → operation.role ≠ .macroCall

/-- None of the lines calls a macro, and the three numbers are the sums over them. -/
structure SumsTo (table : Opcode.Table) (lines : List Line) (size most fewest : Int) : Prop where
  primitive : ∀ line ∈ lines, Primitive line
  size : size = (lines.map (bytesOf table)).sum
  most : most = (lines.map (mostOf table)).sum
  fewest : fewest = (lines.map (fewestOf table)).sum

theorem sumsTo_nil (table : Opcode.Table) : SumsTo table [] 0 0 0 where
  primitive := by simp
  size := rfl
  most := rfl
  fewest := rfl

theorem sumsTo_single (table : Opcode.Table) {line : Line} (primitive : Primitive line) :
    SumsTo table [line] (bytesOf table line) (mostOf table line) (fewestOf table line) where
  primitive := by simpa using primitive
  size := by simp
  most := by simp
  fewest := by simp

/-- Lines one after the other cost the sum of what each part costs. -/
theorem SumsTo.append {table : Opcode.Table} {first second : List Line}
    {size most fewest size' most' fewest' : Int} (here : SumsTo table first size most fewest)
    (there : SumsTo table second size' most' fewest') :
    SumsTo table (first ++ second) (size + size') (most + most') (fewest + fewest') where
  primitive := by
    intro line member
    rcases List.mem_append.1 member with early | late
    · exact here.primitive line early
    · exact there.primitive line late
  size := by rw [List.map_append, List.sum_append, here.size, there.size]
  most := by rw [List.map_append, List.sum_append, here.most, there.most]
  fewest := by rw [List.map_append, List.sum_append, here.fewest, there.fewest]

/-- The numbers of a macro are the sums over the lines. -/
def Keeps (table : Opcode.Table) (definition : Macro) (lines : List Line) : Prop :=
  ∃ most fewest, SumsTo table lines definition.size most fewest ∧
    definition.cycles = Cycles.ofTotals most fewest

/-! ## Walking over a document -/

/-- The lines kept for each macro, and the places that have been visited. -/
structure State where
  bodies : Registry (List Line) := .empty
  visited : List Route := []

/-- The lines that are kept for the macro that a line calls. -/
def called? (bodies : Registry (List Line)) (line : Line) : Option (List Line) :=
  line.operation.bind fun operation =>
    if operation.role = .macroCall then bodies.find? operation.mnemonic else none

/-- What a line of a body stands for: the lines of the macro that it calls, or itself. -/
def ofLine (bodies : Registry (List Line)) (numbered : Nat × Text) :
    Except Numeral.Error (List Line) := do
  let line ← Line.parse bodies.defines numbered.1 numbered.2
  return (called? bodies line).getD [line]

/-- What the lines of a body stand for. -/
def ofBody (bodies : Registry (List Line)) : List (Nat × Text) → Except Numeral.Error (List Line)
  | [] => .ok []
  | first :: rest => do
    let lines ← ofLine bodies first
    let others ← ofBody bodies rest
    return lines ++ others

/-- How the lines of a document are walked over, given the directory for included files. -/
abbrev Walk := Option Path → List Text → State → Except Numeral.Error State

/-- Walks over an included file unless it has been visited or is not found. -/
def inclusion (tree : FileTree) (walk : Walk) (directory : Path) (target : Text) (state : State) :
    Except Numeral.Error State :=
  match resolve? tree directory target with
  | none => .ok state
  | some path =>
    if tree.canonical path ∈ state.visited then .ok state
    else
      let entered := { state with visited := state.visited ++ [tree.canonical path] }
      match tree.readLines path with
      | .error _ => .ok entered
      | .ok lines => walk (some path.parent) lines entered

/-- Walks over one line; `open?` is the macro that has not ended. -/
def step (tree : FileTree) (walk : Walk) (directory : Option Path) (number : Nat) (text : Text)
    (open? : Option Block) (state : State) : Except Numeral.Error (Option Block × State) :=
  match open? with
  | some block =>
    if isMacroEnd (Text.trim text) then do
      let lines ← ofBody state.bodies block.lines
      return (none, { state with bodies := state.bodies.put (Text.upper block.name) lines })
    else .ok (some { block with lines := block.lines ++ [(number, text)] }, state)
  | none =>
    match landmark? (Text.trim text) with
    | some (.inclusion target) =>
      match directory with
      | none => .ok (none, state)
      | some directory => do
        let state ← inclusion tree walk directory target state
        return (none, state)
    | some (.header name) => .ok (some { name := Text.upper name, startLine := number }, state)
    | _ => .ok (none, state)

/-- Walks over lines from the given number on. -/
def steps (tree : FileTree) (walk : Walk) (directory : Option Path) :
    Nat → List Text → Option Block → State → Except Numeral.Error State
  | _, [], _, state => .ok state
  | number, text :: rest, open?, state => do
    let (open?, state) ← step tree walk directory number text open? state
    steps tree walk directory (number + 1) rest open? state

/-- Walks over a document and, to the given depth, the files that it includes. -/
def toDepth (tree : FileTree) : Nat → Walk
  | 0, _, _, state => .ok state
  | depth + 1, directory, lines, state =>
    steps tree (toDepth tree depth) directory 0 lines none state

/-- The lines that each macro of a document and of the files it includes stands for. -/
def ofDocument (tree : FileTree) (lines : List Text) (directory : Option Path)
    (file : Option Text) : Except Numeral.Error (Registry (List Line)) := do
  let own := file.toList.map fun name => tree.canonical (Path.ofText name)
  let state ← toDepth tree (tree.nodes.length + 1) directory lines { visited := own }
  return state.bodies

/-! ## Bodies -/

section Bodies

variable {scanner : Scanner} {bodies : Registry (List Line)}

/-- Both walks recognise the same names. -/
theorem recognises_eq_defines (unpinned : scanner.pinned = none)
    (related : Store.Related (Keeps scanner.table) scanner.macros bodies) :
    scanner.recognises = bodies.defines := by
  funext name
  rw [Scanner.recognises, unpinned]
  exact related.contains (Text.upper name)

/-- What an operation adds is the sum over what its line stands for. -/
theorem sumsTo_of_measureOperation
    (related : Store.Related (Keeps scanner.table) scanner.macros bodies) {line : Line}
    {operation : Operation} (holds : line.operation = some operation)
    (known : operation.role = .macroCall → bodies.defines operation.mnemonic = true)
    {body : BodyLine} (measured : measureOperation scanner line operation = .ok body) :
    SumsTo scanner.table ((called? bodies line).getD [line]) body.size body.most body.fewest := by
  have single : operation.role ≠ .macroCall → SumsTo scanner.table [line] _ _ _ := fun plain =>
    sumsTo_single scanner.table fun other same => by
      rw [holds] at same
      cases same
      exact plain
  rw [measureOperation] at measured
  cases role : operation.role
  case macroCall =>
    simp only [role] at measured
    simp only [called?, holds, Option.bind_some, role, if_true]
    cases found : scanner.macros.find? operation.mnemonic with
    | some nested =>
      simp only [found] at measured
      obtain ⟨⟨most, fewest⟩, bounds, made⟩ := Fault.bind_eq_ok.1 measured
      cases made
      rw [Fault.requireCycles_eq_ok] at bounds
      obtain ⟨lines, kept, total, least, sums, cycles⟩ := related.exists_get? found
      rw [cycles, Cycles.bounds?_ofTotals] at bounds
      cases bounds
      rw [Registry.find?, kept]
      exact sums
    | none =>
      have both : scanner.macros.defines operation.mnemonic = bodies.defines operation.mnemonic :=
        related.contains (Text.upper operation.mnemonic)
      rw [known role, Registry.defines, found] at both
      cases both
  case instruction =>
    simp only [role] at measured
    obtain ⟨entry, looked, measured⟩ := Fault.bind_eq_ok.1 measured
    rw [Fault.ofNumeral_eq_ok] at looked
    cases entry with
    | none =>
      cases measured
      simpa [called?, holds, role, bytesOf, mostOf, fewestOf, entryOf?, looked, Except.toOption]
        using single (by simp [role])
    | some entry =>
      obtain ⟨⟨most, fewest⟩, bounds, made⟩ := Fault.bind_eq_ok.1 measured
      cases made
      rw [Fault.requireCycles_eq_ok, Cycles.bounds?_eq_some, Cycles.most?,
        Cycles.fewest?] at bounds
      simpa [called?, holds, role, bytesOf, mostOf, fewestOf, entryOf?, looked, Except.toOption,
        bounds.1, bounds.2] using single (by simp [role])
  -- Data adds its bytes, other directives and calls that switch banks nothing.
  all_goals
    simp only [role] at measured
    cases measured
    simpa [called?, holds, role, bytesOf, mostOf, fewestOf, entryOf?] using
      single (by simp [role])

/-- What a line of a body adds is the sum over what it stands for. -/
theorem ofLine_of_measure (unpinned : scanner.pinned = none)
    (related : Store.Related (Keeps scanner.table) scanner.macros bodies)
    {numbered : Nat × Text} {body : BodyLine} (measured : measure scanner numbered = .ok body) :
    ∃ lines, ofLine bodies numbered = .ok lines ∧
      SumsTo scanner.table lines body.size body.most body.fewest := by
  obtain ⟨line, parsed, measured⟩ := Fault.bind_eq_ok.1 measured
  rw [Fault.ofNumeral_eq_ok, Scanner.parseLine, recognises_eq_defines unpinned related] at parsed
  refine ⟨(called? bodies line).getD [line], ?_, ?_⟩
  · rw [ofLine, Fault.bind_eq_ok]
    exact ⟨line, parsed, rfl⟩
  · cases holds : line.operation with
    | none =>
      simp only [holds] at measured
      cases measured
      have primitive : Primitive line := fun operation same => by simp [holds] at same
      simpa [called?, holds, bytesOf, mostOf, fewestOf, entryOf?] using
        sumsTo_single scanner.table primitive
    | some operation =>
      simp only [holds] at measured
      exact sumsTo_of_measureOperation related holds (Line.isMacro_of_parse parsed holds) measured

/-- What a body adds is the sum over what it stands for. -/
theorem ofBody_of_measureAll (unpinned : scanner.pinned = none)
    (related : Store.Related (Keeps scanner.table) scanner.macros bodies)
    {numbered : List (Nat × Text)} {body : List BodyLine}
    (measured : measureAll scanner numbered = (body, none)) :
    ∃ lines, ofBody bodies numbered = .ok lines ∧
      SumsTo scanner.table lines (body.map BodyLine.size).sum (body.map BodyLine.most).sum
        (body.map BodyLine.fewest).sum := by
  induction numbered generalizing body with
  | nil =>
    cases measured
    exact ⟨[], rfl, sumsTo_nil scanner.table⟩
  | cons first rest ih =>
    rw [measureAll] at measured
    cases here : measure scanner first with
    | error fault => simp [here] at measured
    | ok line =>
      simp only [here, Prod.mk.injEq] at measured
      obtain ⟨rfl, complete⟩ := measured
      obtain ⟨lines, expands, sums⟩ := ofLine_of_measure unpinned related here
      obtain ⟨others, follow, further⟩ := ih (Prod.ext rfl complete)
      refine ⟨lines ++ others, ?_, ?_⟩
      · rw [ofBody, expands, follow]
        rfl
      · simpa only [List.map_cons, List.sum_cons] using sums.append further

end Bodies

/-! ## The two walks keep step -/

/-- A scan and the other walk have come to the same point: the same macros are known, each with
the sums over its lines, and the same places have been visited. -/
structure InStep (table : Opcode.Table) (progress : Progress) (state : State) : Prop where
  opcodes : progress.scanner.table = table
  unpinned : progress.scanner.pinned = none
  macros : Store.Related (Keeps table) progress.scanner.macros state.bodies
  visited : progress.visited = state.visited

/-- From the same point on, a scan that succeeds and the other walk come to the same point. -/
def KeepStep (table : Opcode.Table) (scan : LineScan) (walk : Walk) : Prop :=
  ∀ ⦃directory : Option Path⦄ ⦃file : Option Text⦄ ⦃lines : List Text⦄
    ⦃progress after : Progress⦄ ⦃state : State⦄, InStep table progress state →
    scan directory file lines progress = .ok after →
    ∃ next, walk directory lines state = .ok next ∧ InStep table after next

/-- The macro that is pending. -/
def openBlock : Pending → Option Block
  | .comments _ => none
  | .block block => some block

theorem openBlock_pendingAfter (comments : List Text) (line : Line) :
    openBlock (pendingAfter comments line) = none := by
  rw [pendingAfter]
  split <;> rfl

section Steps

variable {table : Opcode.Table} {progress after : Progress} {state : State}

theorem InStep.note (same : InStep table progress state) (records : List Record) :
    InStep table (progress.note records) state :=
  ⟨same.opcodes, same.unpinned, same.macros, same.visited⟩

theorem InStep.visit (same : InStep table progress state) (place : Route) :
    InStep table (progress.visit place)
      { state with visited := state.visited ++ [place] } :=
  ⟨same.opcodes, same.unpinned, same.macros, by rw [Progress.visit_visited, same.visited]⟩

/-- Routines are of no concern to macros. -/
theorem InStep.documentLabel (same : InStep table progress state) (file : Option Text)
    (name : Text) (number : Nat) (comments : List Text) :
    InStep table (documentLabel file name number comments progress) state := by
  rw [Scan.documentLabel]
  split
  · exact same
  · exact ⟨same.opcodes, same.unpinned, same.macros, same.visited⟩

/-- A macro that ends is known afterwards with the sums over what its body stands for. -/
theorem InStep.closeBlock (same : InStep table progress state) {block : Block} {number : Nat}
    (closed : closeBlock block number progress = .ok after) :
    ∃ lines, ofBody state.bodies block.lines = .ok lines ∧
      InStep table after
        { state with bodies := state.bodies.put (Text.upper block.name) lines } := by
  obtain ⟨rfl, unpinned, macros, visited⟩ := same
  rw [Scan.closeBlock] at closed
  cases measured : measureAll progress.scanner block.lines with
  | mk body stopped =>
    cases stopped with
    | some fault => simp [measured] at closed
    | none =>
      simp only [measured] at closed
      obtain ⟨lines, expands, sums⟩ := ofBody_of_measureAll unpinned macros measured
      refine ⟨lines, expands, ?_⟩
      split at closed
      · cases closed
      · cases closed
        exact ⟨rfl, unpinned, macros.put _ ⟨_, _, sums, rfl⟩, visited⟩

theorem InStep.inclusion {tree : FileTree} {scan : LineScan} {walk : Walk} {directory : Path}
    {target : Text} (same : InStep table progress state) (deeper : KeepStep table scan walk)
    (included : InclusionStep tree scan directory target progress after) :
    ∃ next, inclusion tree walk directory target state = .ok next ∧ InStep table after next := by
  rw [Expansion.inclusion]
  cases included with
  | missing nowhere =>
    rw [nowhere]
    exact ⟨state, rfl, (same.note _).note _⟩
  | known found visited =>
    rw [same.visited] at visited
    simp only [found, if_pos visited]
    exact ⟨state, rfl, same.note _⟩
  | unreadable found fresh failed =>
    rw [same.visited] at fresh
    simp only [found, if_neg fresh, failed]
    exact ⟨_, rfl, ((same.note _).visit _).note _⟩
  | opened found fresh read scanned =>
    rw [same.visited] at fresh
    simp only [found, if_neg fresh, read]
    exact deeper (((same.note _).visit _).note _) scanned

/-- One line keeps the walks in step. -/
theorem InStep.step {tree : FileTree} {scan : LineScan} {walk : Walk} {directory : Option Path}
    {file : Option Text} {number : Nat} {text : Text} {pending next : Pending}
    (same : InStep table progress state) (deeper : KeepStep table scan walk)
    (line : LineStep tree scan directory file number text pending progress next after) :
    ∃ state', step tree walk directory number text (openBlock pending) state =
        .ok (openBlock next, state') ∧ InStep table after state' := by
  cases line with
  | closes ends closed =>
    obtain ⟨lines, expands, further⟩ := same.closeBlock closed
    refine ⟨_, ?_, further⟩
    simp only [Expansion.step, openBlock, ends, if_true, expands]
    rfl
  | collects goesOn =>
    refine ⟨state, ?_, same⟩
    simp only [Expansion.step, openBlock, goesOn, Bool.false_eq_true, if_false]
  | ignores mark nowhere =>
    refine ⟨state, ?_, same⟩
    simp only [Expansion.step, openBlock, mark, nowhere]
  | includes mark given included =>
    obtain ⟨state', walked, further⟩ := same.inclusion deeper included
    refine ⟨state', ?_, further⟩
    simp only [Expansion.step, openBlock, mark, given, walked]
    rfl
  | begins mark =>
    refine ⟨state, ?_, same⟩
    simp only [Expansion.step, openBlock, mark]
  | labels mark =>
    refine ⟨state, ?_, same.documentLabel _ _ _ _⟩
    simp only [Expansion.step, openBlock, mark]
  | @passes comments _ line mark parsed =>
    refine ⟨state, ?_, same⟩
    rw [openBlock_pendingAfter]
    simp only [Expansion.step, openBlock, mark]

/-- A run of lines keeps the walks in step. -/
theorem InStep.steps {tree : FileTree} {scan : LineScan} {walk : Walk} {directory : Option Path}
    {file : Option Text} {number : Nat} {lines : List Text} {pending : Pending}
    (same : InStep table progress state) (deeper : KeepStep table scan walk)
    (scanned : scanLines tree scan directory file number lines pending progress = .ok after) :
    ∃ next, steps tree walk directory number lines (openBlock pending) state = .ok next ∧
      InStep table after next := by
  induction lines generalizing number pending progress state with
  | nil =>
    cases scanned
    refine ⟨state, rfl, ?_⟩
    cases pending with
    | comments texts => exact same
    | block block => exact same.note _
  | cons text rest ih =>
    rw [scanLines] at scanned
    obtain ⟨⟨next, middle⟩, first, others⟩ := Fault.bind_eq_ok.1 scanned
    obtain ⟨state', walked, further⟩ := same.step deeper (lineStep_of_scanLine first)
    obtain ⟨last, follow, final⟩ := ih further others
    refine ⟨last, ?_, final⟩
    rw [Expansion.steps, walked]
    exact follow

end Steps

/-- To whatever depth included files are followed, the walks keep step. -/
theorem keepStep_scanTo (table : Opcode.Table) (tree : FileTree) (depth : Nat) :
    KeepStep table (scanTo tree depth) (toDepth tree depth) := by
  induction depth with
  | zero =>
    intro directory file lines progress after state same scanned
    cases scanned
    exact ⟨state, rfl, same⟩
  | succ depth ih =>
    intro directory file lines progress after state same scanned
    exact same.steps ih scanned

end Expansion

open Expansion in
/-- **Macros cost what they expand to.**  After a scan the other walk knows the same macros, and
the numbers of each are the sums over the lines that it stands for: its size over their bytes, its
most and fewest cycles over the first and the last number of their cycles.  None of these lines
calls a macro that was known when the body ended. -/
theorem macros_cost_their_expansions (table : Opcode.Table) (macros : Registry Macro)
    (routines : Registry Routine) (tree : FileTree) (lines : List Text) (directory : Option Path)
    (file : Option Text) {progress : Progress}
    (returned : Scanner.scan { table, macros, routines } tree lines directory file =
      .ok progress) :
    ∃ bodies, ofDocument tree lines directory file = .ok bodies ∧
      progress.scanner.macros.keys = bodies.keys ∧
      ∀ key definition, progress.scanner.macros.get? key = some definition →
        ∃ expanded, bodies.get? key = some expanded ∧
          (∀ line ∈ expanded, Primitive line) ∧
          definition.size = (expanded.map (bytesOf table)).sum ∧
          definition.cycles.most? = some (expanded.map (mostOf table)).sum ∧
          definition.cycles.fewest? = some (expanded.map (fewestOf table)).sum := by
  have reached : ∃ state, toDepth tree (tree.nodes.length + 1) directory lines
      { visited := file.toList.map fun name => tree.canonical (Path.ofText name) } = .ok state ∧
      InStep table progress state := by
    rw [Scanner.scan] at returned
    cases file with
    | none =>
      exact keepStep_scanTo table tree _ ⟨rfl, rfl, Store.related_empty, rfl⟩ returned
    | some name =>
      simp only [Option.map_some] at returned
      split at returned
      · cases returned
      · exact keepStep_scanTo table tree _ ⟨rfl, rfl, Store.related_empty, rfl⟩ returned
  obtain ⟨state, walked, same⟩ := reached
  refine ⟨state.bodies, ?_, same.macros.keys, ?_⟩
  · rw [ofDocument, walked]
    rfl
  · intro key definition found
    obtain ⟨expanded, kept, most, fewest, sums, cycles⟩ := same.macros.exists_get? found
    refine ⟨expanded, kept, sums.primitive, sums.size, ?_, ?_⟩
    · rw [cycles, Cycles.most?_ofTotals, sums.most]
    · rw [cycles, Cycles.fewest?_ofTotals, sums.fewest]

open Expansion in
/-- A macro of an included file is redefined by a body that calls it twice: the calls stand for
the earlier definition. -/
theorem macros_cost_their_expansions_redefined :
    let tree : FileTree := { nodes := [(["two.inc".toList],
      .file ("Two: MACRO\n jr nz, x\n db 1\nENDM".toList.map fun c => c.toNat.toUInt8))] }
    let lines : List Text := ["INCLUDE \"two.inc\"".toList, "Two: MACRO".toList, " Two".toList,
      " Two".toList, " later".toList, " db 7, 8".toList, " ENDM".toList]
    ∃ progress bodies definition expanded,
      Scanner.scan {} tree lines (some {}) none = .ok progress ∧
      ofDocument tree lines (some {}) none = .ok bodies ∧
      progress.scanner.macros.get? "TWO" = some definition ∧
      bodies.get? "TWO" = some expanded ∧ definition.size = 8 ∧
      (expanded.map (bytesOf .standard)).sum = 8 := by
  intro tree lines
  have known : ((Scanner.scan {} tree lines (some {}) none).toOption.bind fun progress =>
      progress.scanner.macros.get? "TWO").map Macro.size = some 8 := by decide +kernel
  cases returned : Scanner.scan {} tree lines (some {}) none with
  | error stopped =>
    rw [returned] at known
    cases known
  | ok progress =>
    obtain ⟨bodies, walked, -, sums⟩ :=
      macros_cost_their_expansions .standard .empty .empty tree lines (some {}) none returned
    rw [returned, Except.toOption, Option.bind_some, Option.map_eq_some_iff] at known
    obtain ⟨definition, found, size⟩ := known
    obtain ⟨expanded, kept, -, total, -⟩ := sums _ definition found
    exact ⟨progress, bodies, definition, expanded, rfl, walked, found, kept, size,
      total.symm.trans size⟩

end Sm83Cost.Scan
