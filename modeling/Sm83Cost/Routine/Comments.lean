import Sm83Cost.Operand
import Sm83Cost.Routine.Basic
import Sm83Cost.Text.Caseless

/-!
# Reading the comments of a routine

The comments above a label are searched for the registers that the routine
expects.  Three ways of writing them are known, and the first one that a line
follows decides:

* a heading such as `Inputs:` anywhere on the line, and after it a list of
  registers, each with a mark and a description;
* a register at the beginning of the line, with a mark and a description;
* `@param` with a register and a description, where the mark may be missing.

The first line that follows none of these, and is neither empty nor a ruler,
describes the routine.
-/

namespace Sm83Cost.Comments

set_option autoImplicit false

/-- The registers in small letters. -/
def registers : List Text :=
  Operand.registers.map (·.map Char.toLower)

/-- An argument, if the word before the description names a register. -/
def argument? (word description : Text) : Option Argument :=
  let register := Text.lower word
  if registers.contains register then some { register, description := Text.trim description }
  else none

/-- The marks between a register and its description. -/
def isMark (c : Char) : Bool := c == ':' || c == '=' || c == '-'

/-- What stands on the line after blanks, if anything does. -/
def restOfLine? (text : Text) : Option Text :=
  let rest := (text.dropWhile Text.isBlank).takeWhile (· != '\n')
  if rest.isEmpty then none else some rest

/-- The one or two letters that a text begins with. -/
def letters (text : Text) : Text :=
  (text.takeWhile Text.isLetter).take 2

/-- A word of one or two letters, a mark and a description. -/
def marked? (text : Text) : Option (Text × Text) :=
  if (letters text).isEmpty then none
  else match (text.drop (letters text).length).dropWhile Text.isBlank with
    | c :: rest => if isMark c then (restOfLine? rest).map ((letters text), ·) else none
    | [] => none

/-! ## Lists of inputs -/

/-- The words that announce a list of inputs, without the final `s`. -/
def headings : List Text := ["input", "arg", "argument", "param", "parameter"]

/-- What follows a heading at the beginning of a text. -/
def afterHeading? (text : Text) : Option Text :=
  headings.findSome? fun heading =>
    (Text.afterKeyword? heading text).bind fun rest =>
      match (Text.afterKeyword? "s" rest).getD rest with
      | ':' :: list => restOfLine? list
      | _ => none

/-- What follows the first heading of a line. -/
def listOnLine? : Text → Option Text
  | [] => none
  | c :: rest => (afterHeading? (c :: rest)).or (listOnLine? rest)

/-- The arguments of a list of inputs. -/
def listed? (line : Text) : Option (List Argument) :=
  (listOnLine? line).map fun list =>
    (Text.splitWhere (fun c => c == ',' || c == ';') list).filterMap fun piece =>
      (marked? (Text.trim piece)).bind fun (word, description) => argument? word description

/-! ## Single registers -/

/-- The line after the word `register` and blanks, or the line itself. -/
def withoutKeyword (line : Text) : Text :=
  match Text.afterKeyword? "register" line with
  | some (c :: rest) => if Text.isBlank c then rest.dropWhile Text.isBlank else line
  | _ => line

/-- The argument of a line that begins with a register. -/
def single? (line : Text) : Option (List Argument) :=
  (marked? (withoutKeyword line)).bind fun (word, description) =>
    (argument? word description).map ([·])

/-! ## Parameters -/

/-- The description after the register of a parameter: a mark is passed over unless nothing
follows it. -/
def unmarked? (text : Text) : Option Text :=
  match text.dropWhile Text.isBlank with
  | c :: rest => (if isMark c then restOfLine? rest else none).or (restOfLine? (c :: rest))
  | [] => none

/-- The register and the description of a parameter.  Where two letters are all there is, the
second one is the description of the first. -/
def parameterParts? (text : Text) : Option (Text × Text) :=
  match letters text with
  | [] => none
  | [letter] => (unmarked? (text.drop 1)).map ([letter], ·)
  | first :: others =>
    match unmarked? (text.drop 2) with
    | some description => some (first :: others, description)
    | none => some ([first], others)

/-- The parameter at the beginning of a text. -/
def afterParam? (text : Text) : Option (Text × Text) :=
  match Text.afterKeyword? "param" text with
  | some (c :: rest) =>
    if Text.isBlank c then parameterParts? (rest.dropWhile Text.isBlank) else none
  | _ => none

/-- The first parameter of a line. -/
def firstParameter? : Text → Option (Text × Text)
  | [] => none
  | c :: rest => (afterParam? (c :: rest)).or (firstParameter? rest)

/-- The argument of a line with a parameter. -/
def parameter? (line : Text) : Option (List Argument) :=
  (firstParameter? line).bind fun (word, description) =>
    (argument? word description).map ([·])

/-! ## All comments of a routine -/

/-- The arguments of a trimmed line in the first way of writing that it follows. -/
def recognise? (line : Text) : Option (List Argument) :=
  (listed? line).or ((single? line).or (parameter? line))

/-- A line of dashes and equals signs only. -/
def isRuler (line : Text) : Bool :=
  !line.isEmpty && line.all fun c => c == '-' || c == '='

/-- What the comments of a routine say. -/
structure Summary where
  arguments : List Argument := []
  description : Option Text := none
deriving DecidableEq, Repr

/-- The summary after one more comment. -/
def Summary.add (summary : Summary) (comment : Text) : Summary :=
  let line := Text.trim comment
  match recognise? line with
  | some arguments => { summary with arguments := summary.arguments ++ arguments }
  | none =>
    if summary.description.isNone && !line.isEmpty && !isRuler line then
      { summary with description := some line }
    else summary

/-- What comments say, taken in order. -/
def summarise (comments : List Text) : Summary :=
  comments.foldl Summary.add {}

/-- The comments say nothing. -/
def Summary.isSilent (summary : Summary) : Bool :=
  summary.arguments.isEmpty && summary.description.isNone

end Sm83Cost.Comments
