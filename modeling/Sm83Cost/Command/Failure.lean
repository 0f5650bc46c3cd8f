import Sm83Cost.Config.Basic
import Sm83Cost.Source

/-!
# Failures of commands

A command that cannot do its work says why on the error stream and ends with a
code: 1 when the source or the question is at fault, 2 when an argument, a
setting or a file is, 3 for anything unexpected.

Control sequences for terminals are taken out of everything that is shown.
-/

namespace Sm83Cost.Command

set_option autoImplicit false

/-- What a command shows, and the code it ends with. -/
structure Report where
  code : Nat := 0
  output : Text := []
  errors : Text := []
deriving DecidableEq, Repr

/-! ## Showing text -/

/-- The text with every line break a single character. -/
def plainBreaks (text : Text) : Text :=
  Text.replaceAny ["\r\n"] "\n" text

/-- The report as it leaves the program, with plain line breaks throughout. -/
def Report.final (report : Report) : Report :=
  { report with output := plainBreaks report.output, errors := plainBreaks report.errors }

/-- The length of a control sequence at the beginning of a text: an escape and a bracket,
digits and separators, and a letter. -/
def controlLength? : Text → Option Nat
  | escape :: '[' :: rest =>
    if escape.toNat = 0x1B then
      let parameters := rest.takeWhile fun c => c.isDigit || c == ';' || c == '?'
      if (rest.drop parameters.length).head?.any Char.isAlpha then some (parameters.length + 3)
      else none
    else none
  | _ => none

/-- The text as shown: without control sequences, and with a line break at its end. -/
def shown (text : Text) : Text :=
  Text.replaceMatches controlLength? [] text ++ ['\n']

/-! ## Failures -/

/-- Why a command did not do its work. -/
inductive Failure where
  /-- A setting cannot be used. -/
  | setting (message : Text)
  /-- The analysis is not possible. -/
  | analysis (message : Text)
  /-- An argument does not fit the file. -/
  | argument (message : Text)
  /-- A file is missing or closed to the user. -/
  | access (message : Text)
  /-- Anything else. -/
  | internal (message : Text)
  /-- There is no text to say why. -/
  | silent
deriving DecidableEq, Repr

/-- The code that a failure ends a command with. -/
def Failure.code : Failure → Nat
  | .setting _ | .argument _ | .access _ => 2
  | .analysis _ | .silent => 1
  | .internal _ => 3

/-- The text of a failure; `activity` says what the analysis was about. -/
def Failure.text (activity : Option Text) : Failure → Text
  | .setting message | .argument message | .access message => "Error: " ++ message
  | .analysis message =>
    match activity with
    | none | some [] => "Error: " ++ message
    | some activity => activity ++ " error: " ++ message
  | .internal message => "Internal error: " ++ message
  | .silent => []

/-- What is shown of where an unexpected failure arose. -/
def trace : Text := "Traceback (most recent call last):\n"

/-- The report of a failure.  A verbose command also announces where an unexpected one
arose; of a silent one nothing is shown. -/
def Failure.report (failure : Failure) (verbose : Bool) (activity : Option Text) : Report where
  code := failure.code
  errors := match failure with
    | .silent => []
    | .internal _ => shown (failure.text activity) ++ (if verbose then trace else [])
    | _ => shown (failure.text activity)

/-- The failure that a configuration error causes. -/
def Failure.ofConfig : ConfigError → Failure
  | .numeral error => .internal error.message
  | error => .setting error.message

/-- The failure of a source file that was not read. -/
def Failure.ofRead : ReadFailure → Failure
  | .unreadable error => .analysis error.text
  | .nulByte => .internal PathError.nulByte.reason

end Sm83Cost.Command
