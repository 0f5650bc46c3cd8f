import Sm83Cost.Numeral
import Sm83Cost.Text.Case
import Sm83Cost.Text.Word

/-!
# Operands

The opcode table names its operands by form: a register, a condition, an
immediate of one or two bytes (`D8`, `D16`), an address in memory (`[A8]`,
`[A16]`), a memory access through a register (`[HL+]`), a relative target
(`R8`).  Expressions are never evaluated, so the form of a source operand is
guessed from how it is written.

Memory operands are written in brackets or in parentheses and with several
spellings for the stepping of `HL`; `memoryForm` makes these one.
-/

namespace Sm83Cost.Operand

set_option autoImplicit false

/-- The registers, single and paired. -/
def registers : List Text :=
  ["A", "B", "C", "D", "E", "H", "L", "AF", "BC", "DE", "HL", "SP", "PC"]

/-- The conditions of branches. -/
def conditions : List Text :=
  ["Z", "NZ", "C", "NC"]

/-- What may stand in brackets and keep its own form. -/
def indirections : List Text :=
  ["HL", "BC", "DE", "C", "HL+", "HL-"]

/-- Names a register, in any case. -/
def isRegister (text : Text) : Bool :=
  registers.contains (Text.upper text)

/-- Names a condition, in any case. -/
def isCondition (text : Text) : Bool :=
  conditions.contains (Text.upper text)

/-! ## One spelling for memory operands -/

/-- A parenthesis that opens here has something in it and is closed later. -/
def closesLater (rest : Text) : Bool :=
  rest.head? != some ')' && rest.contains ')'

/-- Writes each parenthesis as a bracket, up to the next closing one; `inside` tells that a
parenthesis is open. -/
def bracketed : (inside : Bool) → Text → Text
  | _, [] => []
  | true, c :: rest => if c = ')' then ']' :: bracketed false rest else c :: bracketed true rest
  | false, c :: rest =>
    if c = '(' && closesLater rest then '[' :: bracketed true rest
    else c :: bracketed false rest

/-- One spelling for a text in capitals without blanks: stepping of `HL` is marked by a sign,
and memory is put in brackets. -/
def unified (text : Text) : Text :=
  let increments := Text.replaceAny ["(HL+)", "(HLI)", "[HLI]"] "[HL+]" text
  let decrements := Text.replaceAny ["(HL-)", "(HLD)", "[HLD]"] "[HL-]" increments
  bracketed false decrements

/-- The operand in capitals, without blanks and with one spelling for memory. -/
def memoryForm (text : Text) : Text :=
  unified ((Text.upper text).filter (!Text.isBlank ·))

/-! ## Guessing the form -/

/-- Begins with one of the functions that give a byte when the source is assembled. -/
def isByteFunction (text : Text) : Bool :=
  (["BANK", "HIGH", "LOW", "SIZEOF", "STARTOF"] : List Text).any fun name =>
    match Text.after? name text with
    | some rest => (rest.dropWhile Text.isBlank).head? == some '('
    | none => false

/-- A digit of hexadecimal numerals. -/
def isHexDigit (c : Char) : Bool :=
  c.isDigit || 'a' ≤ c && c ≤ 'f' || 'A' ≤ c && c ≤ 'F'

/-- One or more characters that all satisfy `p`. -/
def isRunOf (p : Char → Bool) (text : Text) : Bool :=
  !text.isEmpty && text.all p

/-- Written like an immediate value: a numeral, a character in quotes or a word. -/
def looksImmediate : Text → Bool
  | '$' :: digits => isRunOf isHexDigit digits
  | '%' :: digits => isRunOf (fun c => c == '0' || c == '1') digits
  | '&' :: digits => isRunOf (fun c => '0' ≤ c && c ≤ '7') digits
  | ['"', c, '"'] => c != '\n'
  | text => isRunOf Text.isWord text

/-- An immediate value: written like one, and neither register nor condition. -/
def isImmediate (text : Text) : Bool :=
  looksImmediate text && !isRegister text && !isCondition text

/-- The hexadecimal digits after the first `$` that has any. -/
def firstHexDigits : Text → Option Text
  | [] => none
  | c :: rest =>
    if c = '$' && rest.head?.any isHexDigit then some (rest.takeWhile isHexDigit)
    else firstHexDigits rest

/-- A letter or underscore, and word characters after it. -/
def isIdentifier : Text → Bool
  | [] => false
  | c :: rest => (c.isAlpha || c == '_') && rest.all Text.isWord

/-- Stands for an address: more than two hexadecimal digits, or a name. -/
def isWide (text : Text) : Bool :=
  (firstHexDigits text).any (2 < ·.length)
    || isIdentifier text && !isRegister text && !isCondition text

/-- A name in ASCII capitals. -/
def isCapitalName : Text → Bool
  | [] => false
  | c :: rest => (c.isUpper || c == '_') && rest.all fun d => d.isUpper || d.isDigit || d == '_'

/-- The form of a memory operand with the given text in its brackets. -/
def memoryReference (inner : Text) : Text :=
  if indirections.contains inner then '[' :: inner ++ [']']
  else if inner = "$FF00+C" then "[C]"
  else if isCapitalName inner then "[A16]"
  else if isImmediate inner
      && (("$FF" : Text).isPrefixOf inner || ("FF" : Text).isPrefixOf inner) then "[A8]"
  else "[A16]"

/-- What stands between an opening bracket at the beginning and a closing one at the end. -/
def inBrackets? : Text → Option Text
  | '[' :: rest => Text.before? "]" rest
  | _ => none

/-- An offset from the stack pointer. -/
def isStackOffset (text : Text) : Bool :=
  ("SP+" : Text).isPrefixOf text || ("SP-" : Text).isPrefixOf text

/-- A label, global or local, as the target of a relative jump. -/
def isTarget (text : Text) : Bool :=
  let name := match text with
    | '.' :: rest => rest
    | _ => text
  isRunOf Text.isWord name && !isRegister text && !isCondition text

/-- A numeral in decimal that is too long to be read. -/
def overlong? (text : Text) : Option Numeral.Error :=
  if text.all Text.isDecimal && Numeral.decimalLimit < text.length then
    some (.tooManyDigits text.length)
  else none

/-- The form of an operand without blanks around it. -/
def formOf (text : Text) : Text :=
  let unifiedText := memoryForm text
  if isByteFunction (Text.upper text) then "D8"
  else if isImmediate unifiedText then
    if isWide text then "D16" else "D8"
  else match inBrackets? unifiedText with
    | some inner => memoryReference inner
    | none =>
      if isStackOffset unifiedText then "SP+R8"
      else if isTarget text then "R8"
      else unifiedText

/-- The form under which the opcode table knows a source operand.  The size of a decimal
immediate is looked at, so an overlong one is refused. -/
def form (text : Text) : Except Numeral.Error Text :=
  match overlong? (Text.trim text) with
  | some error => .error error
  | none => .ok (formOf (Text.trim text))

end Sm83Cost.Operand
