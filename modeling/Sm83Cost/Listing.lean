import Sm83Cost.Cost.Basic
import Sm83Cost.Routine.Basic

/-!
# Listings

Costs are shown beside the source.  The remark on a line gives its bytes and
cycles, each followed by the running total where the line is counted, and tags
macros and calls that switch banks.  All remarks of a listing stand in one
column, behind the longest line that has a cost.

Numbers are written in decimal, so a remark fails on one that is too long.  The
details of an instruction or a macro also need its cycles to be listed.
-/

namespace Sm83Cost.Listing

set_option autoImplicit false

/-- Why a listing cannot be made. -/
inductive Error where
  /-- A line with a cost has a number beyond the lines given. -/
  | noSuchLine
  /-- A line cannot be shown. -/
  | fault (cause : Fault)
deriving DecidableEq, Repr

/-- The text of an error. -/
def Error.message : Error → Text
  | .noSuchLine => "list index out of range"
  | .fault cause => cause.message

/-! ## Remarks -/

/-- A number with a unit behind it. -/
def withUnit (unit : Char) (number : Int) : Except Numeral.Error Text := do
  let digits ← Numeral.write number
  return digits ++ [unit]

/-- A quantity, followed by its running total if that is shown. -/
def quantity (unit : Char) (withTotal : Bool) (own total : Int) :
    Except Numeral.Error (List Text) := do
  let first ← withUnit unit own
  if withTotal then
    let second ← withUnit unit total
    return [first, second]
  else return [first]

/-- The tags of a line. -/
def tags (cost : LineCost) : List Text :=
  (if (cost.macroCall.bind MacroCall.definition).isSome then ["[macro]".toList] else [])
    ++ (if cost.predef.isSome then ["[predef]".toList] else [])

/-- The parts of the remark on a line whose cost is known. -/
def parts (config : Config) (cost : LineCost) : Except Numeral.Error (List Text) := do
  let withTotal := config.showCumulative && cost.counting
  let bytes ←
    if config.showByteCount then quantity 'B' withTotal cost.own.bytes cost.running.bytes
    else .ok []
  let cycles ←
    if config.showCycleCount && decide (0 < cost.own.cycles) then
      quantity 'c' withTotal cost.own.cycles cost.running.cycles
    else .ok []
  return bytes ++ cycles ++ tags cost

/-- The remark on a line, empty when there is nothing to say. -/
def remark (config : Config) (cost : LineCost) : Except Numeral.Error Text := do
  if cost.known then
    let parts ← parts config cost
    return Text.joined " | " parts
  else return []

/-! ## Details -/

/-- Cycles in words: both numbers with what they stand for, or the only one. -/
def cyclesInWords (cycles : Cycles) (high low : Text) : Except Fault Text :=
  match cycles.numbers with
  | [] => .error .noCycles
  | [only] => Fault.ofNumeral (withUnit 'c' only)
  | first :: second :: _ => Fault.ofNumeral do
    let most ← withUnit 'c' first
    let other ← withUnit 'c' second
    return most ++ " " ++ high ++ " / " ++ other ++ " " ++ low

/-- Details of an instruction: opcode, flags and cycles. -/
def opcodeDetails (entry : Opcode.Entry) : Except Fault Text := do
  let cycles ← cyclesInWords entry.cycles "taken" "not taken"
  return "[" ++ entry.hex ++ "] " ++ entry.flags.text ++ " | " ++ cycles

/-- Details of a macro: its cost and the number of its operations. -/
def macroDetails (definition : Macro) : Except Fault Text := do
  let cycles ← cyclesInWords definition.cycles "max" "min"
  let size ← Fault.ofNumeral (withUnit 'B' definition.size)
  return "MACRO " ++ definition.name ++ ": " ++ size ++ " | " ++ cycles ++ " | "
    ++ Numeral.decimal definition.body.length ++ " instructions"

/-- Details of a call that switches banks: its target, its cost and what it is made of. -/
def predefDetails (cost : Cost) (call : PredefCall) : Except Numeral.Error Text := do
  let size ← withUnit 'B' cost.bytes
  let cycles ← withUnit 'c' cost.cycles
  let (keyword, last) : Text × Text := match call.kind with
    | .jump => ("PREDEF_JUMP", "jp")
    | .call => ("PREDEF", "call")
  let target := match call.target with
    | some (c :: rest) => c :: rest
    | _ => "unknown".toList
  return keyword ++ " " ++ target ++ ": " ++ size ++ " | " ++ cycles
    ++ " (ld a,BANK + ld hl,addr + " ++ last ++ ")"

/-- The details of a line, if it has any. -/
def details? (cost : LineCost) : Except Fault (Option Text) :=
  match cost.opcode, cost.macroCall.bind MacroCall.definition, cost.predef with
  | some entry, _, _ => some <$> opcodeDetails entry
  | none, some definition, _ => some <$> macroDetails definition
  | none, none, some call => some <$> Fault.ofNumeral (predefDetails cost.own call)
  | none, none, none => .ok none

/-! ## Whole listings -/

/-- The blanks between the longest line with a cost and the remarks. -/
def gap : Nat := 4

/-- The line with a number, where negative numbers count from the end. -/
def lineAt? (lines : List Text) (number : Int) : Option Text :=
  if 0 ≤ number then lines[number.toNat]?
  else if -number ≤ lines.length then lines[lines.length - (-number).toNat]?
  else none

/-- The length of the longest line with a cost. -/
def width (lines : List Text) : List LineCost → Except Error Nat
  | [] => .ok 0
  | cost :: rest =>
    if cost.known then
      match lineAt? lines cost.line.number with
      | some text => do
        let others ← width lines rest
        return max text.length others
      | none => .error .noSuchLine
    else width lines rest

/-- A line with its remark in the column of the listing. -/
def remarked (width : Nat) (text remark : Text) : Text :=
  if remark.isEmpty then text
  else text ++ List.replicate (width + gap - text.length) ' ' ++ remark

/-- What a listing shows for one line. -/
def shownLine (config : Config) (withDetails : Bool) (width : Nat) (text : Text)
    (cost : LineCost) : Except Fault (List Text) := do
  let remark ← Fault.ofNumeral (remark config cost)
  let shown := remarked width text remark
  if withDetails then
    match ← details? cost with
    | some details => return [shown, "    " ++ details]
    | none => return [shown]
  else return [shown]

/-- The shown lines, up to the end of the shorter list. -/
def shownLines (config : Config) (withDetails : Bool) (width : Nat) (lines : List Text)
    (costs : List LineCost) : Except Fault (List (List Text)) :=
  (lines.zip costs).mapM fun (text, cost) => shownLine config withDetails width text cost

/-- The listing of a document. -/
def render (config : Config) (lines : List Text) (costs : List LineCost) (withDetails : Bool) :
    Except Error (List Text) := do
  let width ← width lines costs
  match shownLines config withDetails width lines costs with
  | .ok shown => return shown.flatten
  | .error cause => throw (.fault cause)

end Sm83Cost.Listing
