import Sm83Cost.Line.Directive
import Sm83Cost.Text.Word

/-!
# Lines of source

A line is read on its own.  It may have a label, an operation with operands, and
a comment.  A label is a word before a colon or two, or a local one that begins
with a point and needs no colon.

What an operation is decides where its cost comes from.  Directives are looked
for first, then the macros known at the time, then the calls that switch banks;
everything else is taken for an instruction.  `SET` is a directive, unless it
has the two operands of the bit instruction.
-/

namespace Sm83Cost

set_option autoImplicit false

/-- The two ways of reaching a routine in another bank. -/
inductive PredefKind where
  | call
  | jump
deriving DecidableEq, Repr

/-- What the operation of a line is. -/
inductive Role where
  /-- A data directive, with the number of bytes it puts down. -/
  | data (bytes : Nat)
  /-- A directive that costs nothing. -/
  | directive
  /-- The name of a macro. -/
  | macroCall
  /-- A call that switches banks. -/
  | predef (kind : PredefKind)
  /-- An instruction of the processor. -/
  | instruction
deriving DecidableEq, Repr

/-- An operation with its mnemonic in capitals and its operands as written. -/
structure Operation where
  mnemonic : Text
  operands : List Text
  role : Role
deriving DecidableEq, Repr

/-- One line of source, taken apart. -/
structure Line where
  number : Int
  raw : Text
  label : Option Text := none
  operation : Option Operation := none
  comment : Option Text := none
deriving DecidableEq, Repr

namespace Line

/-- A line with nothing on it. -/
def blank (number : Int) : Line where
  number := number
  raw := []

/-- The line defines something or does something. -/
def hasCode (line : Line) : Bool :=
  line.label.isSome || line.operation.isSome

/-! ## Taking a line apart -/

/-- The label at the beginning of the code, without colons, and what follows it. -/
def splitLabel? (code : Text) : Option (Text × Text) :=
  match code with
  | '.' :: rest =>
    let inName := fun c => Text.isWord c || c == '.'
    if (rest.takeWhile inName).isEmpty then none
    else some ('.' :: rest.takeWhile inName, dropColons 2 (rest.dropWhile inName))
  | _ =>
    match code.takeWhile Text.isWord, code.dropWhile Text.isWord with
    | [], _ => none
    | name, ':' :: rest => some (name, dropColons 1 rest)
    | _, _ => none

/-- The keywords of calls that switch banks. -/
def predefKeywords : List (Text × PredefKind) := [
  ("PREDEF", .call), ("PREDEF_JUMP", .jump), ("FARCALL", .call), ("CALLFAR", .call),
  ("HOMECALL", .call)]

/-- The mnemonic is a directive without cost when it has these operands. -/
def isOtherDirective (mnemonic : Text) (operands : List Text) : Bool :=
  otherDirectives.contains mnemonic && !(mnemonic == "SET".toList && operands.length == 2)

/-- What a mnemonic in capitals is, given the names of the macros. -/
def roleOf (isMacro : Text → Bool) (mnemonic : Text) (operands : List Text) :
    Except Numeral.Error Role :=
  if dataDirectives.contains mnemonic then do
    let bytes ← itemBytes mnemonic operands
    return .data bytes
  else if isOtherDirective mnemonic operands then .ok .directive
  else if isMacro mnemonic then .ok .macroCall
  else match predefKeywords.lookup mnemonic with
    | some kind => .ok (.predef kind)
    | none => .ok .instruction

/-- The operation that trimmed code stands for; none when there is no code. -/
def operationOf (isMacro : Text → Bool) (code : Text) :
    Except Numeral.Error (Option Operation) :=
  if code.isEmpty then .ok none
  else do
    let (written, operandText) := splitMnemonic code
    let mnemonic := Text.upper written
    let operands := splitOperands operandText
    let role ← roleOf isMacro mnemonic operands
    return some { mnemonic, operands, role }

/-- The label of trimmed code and the trimmed code behind it. -/
def labelAndCode (code : Text) : Option Text × Text :=
  match splitLabel? code with
  | some (label, rest) => (some label, Text.trim rest)
  | none => (none, code)

/-- Takes a line apart.  Only the size of reserved space can fail to be read. -/
def parse (isMacro : Text → Bool) (number : Int) (raw : Text) : Except Numeral.Error Line := do
  let (label, code) := labelAndCode (Text.trim (codePart raw))
  let operation ← operationOf isMacro code
  return { number, raw, label, operation, comment := commentPart? raw }

/-! ## Transfer of control -/

/-- The instructions whose last operand names where control goes. -/
def transfers : List Text := ["CALL", "JP", "JR", "RST"]

/-- Where a line transfers control to: the first operand of a call that switches banks, the
last one of a call or jump. -/
def transferTarget? (line : Line) : Option Text :=
  line.operation.bind fun operation =>
    match operation.role with
    | .predef _ => operation.operands.head?
    | .instruction =>
      if transfers.contains operation.mnemonic then operation.operands.getLast? else none
    | _ => none

end Line

end Sm83Cost
