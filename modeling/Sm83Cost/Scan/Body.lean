import Sm83Cost.Scan.Scanner

/-!
# The cost of a macro body

When a macro ends, its body is taken apart and its cost summed: the bytes of
data, the size and cycles of each instruction, and those of each macro that it
calls, as that macro stands at the time.  Instructions that are not in the
table, calls that switch banks and lines without an operation add nothing.
-/

namespace Sm83Cost.Scan

set_option autoImplicit false

/-- A macro that has begun, with the lines of its body so far. -/
structure Block where
  name : Text
  startLine : Nat
  lines : List (Nat × Text) := []
deriving DecidableEq, Repr

/-- A line of a body with what it adds to the cost. -/
structure BodyLine where
  line : Line
  size : Int := 0
  most : Int := 0
  fewest : Int := 0
  record : Option Record := none

/-- What an operation in a body adds. -/
def measureOperation (scanner : Scanner) (line : Line) (operation : Operation) :
    Except Fault BodyLine :=
  match operation.role with
  | .data bytes => .ok { line, size := bytes }
  | .directive => .ok { line }
  | .predef _ => .ok { line }
  | .macroCall =>
    match scanner.macros.find? operation.mnemonic with
    | some nested => do
      let (most, fewest) ← Fault.requireCycles nested.cycles.bounds?
      return { line, size := nested.size, most, fewest }
    | none => .ok { line }
  | .instruction => do
    match ← Fault.ofNumeral (scanner.table.lookup operation.mnemonic operation.operands) with
    | some entry =>
      let (most, fewest) ← Fault.requireCycles entry.cycles.bounds?
      return { line, size := entry.size, most, fewest }
    | none =>
      return { line,
               record := some (.unknownInstruction operation.mnemonic operation.operands) }

/-- What a line of a body adds. -/
def measure (scanner : Scanner) (numbered : Nat × Text) : Except Fault BodyLine := do
  let line ← Fault.ofNumeral (scanner.parseLine numbered.2 numbered.1)
  match line.operation with
  | some operation => measureOperation scanner line operation
  | none => return { line }

/-- Measures lines in order up to the first that cannot be measured. -/
def measureAll (scanner : Scanner) :
    List (Nat × Text) → List BodyLine × Option Fault
  | [] => ([], none)
  | first :: rest =>
    match measure scanner first with
    | .error fault => ([], some fault)
    | .ok measured =>
      let (others, fault) := measureAll scanner rest
      (measured :: others, fault)

/-- The macro that a block with a measured body defines. -/
def Block.define (block : Block) (endLine : Nat) (body : List BodyLine) : Macro where
  name := block.name
  startLine := block.startLine
  endLine := endLine
  size := (body.map BodyLine.size).foldr (· + ·) 0
  cycles := Cycles.ofTotals ((body.map BodyLine.most).foldr (· + ·) 0)
    ((body.map BodyLine.fewest).foldr (· + ·) 0)
  body := (body.map BodyLine.line).filter (·.operation.isSome)

end Sm83Cost.Scan
