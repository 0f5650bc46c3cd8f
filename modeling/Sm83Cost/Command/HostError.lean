import Sm83Cost.Command.Failure

/-!
# Errors of a host

A host may hand an error over by its kind and the values it is made of, and have
it reported like one that arose in a command.  Some kinds say which values they
need: too few or too many make no error, and neither does a value that cannot
play its part.
-/

namespace Sm83Cost.Command

set_option autoImplicit false

/-! ## Values that make nothing -/

/-- The values that something is made of: the names of those it needs, and how many more it
takes. -/
structure Signature where
  owner : Text
  needed : List Text
  optional : Nat := 0
deriving DecidableEq, Repr

/-- Why values make nothing. -/
inductive MakingError where
  /-- Some of the needed values are missing. -/
  | missing (owner : Text) (names : List Text)
  /-- There are more values than are taken. -/
  | excess (signature : Signature) (count : Nat)
  /-- A value stands where a command is expected. -/
  | noCommand (value : Setting)
  /-- A value stands where a whole number is expected. -/
  | noCount (value : Setting)
  /-- A number is too large for a count. -/
  | hugeCount

/-- Names one after another, the last one after "and". -/
def enumerated : List Text → Text
  | [] => []
  | [only] => only
  | [first, second] => first ++ " and " ++ second
  | names => Text.joined ", " names.dropLast ++ ", and " ++ names.getLastD []

/-- The text of an error.  What is made counts as a value of its own, so there is one more than
was handed over. -/
def MakingError.message : MakingError → Text
  | .missing owner names =>
    owner ++ ".__init__() missing " ++ Numeral.decimal names.length
      ++ " required positional argument" ++ (if names.length = 1 then "" else "s") ++ ": "
      ++ enumerated (names.map fun name => "'" ++ name ++ "'")
  | .excess signature count =>
    let least := Numeral.decimal (signature.needed.length + 1)
    let most := Numeral.decimal (signature.needed.length + signature.optional + 1)
    let taken : Text :=
      if signature.optional = 0 then least else "from " ++ least ++ " to " ++ most
    signature.owner ++ ".__init__() takes " ++ taken ++ " positional arguments but "
      ++ Numeral.decimal (count + 1) ++ " were given"
  | .noCommand value => "'" ++ value.kindName ++ "' object has no attribute 'command'"
  | .noCount value => "'" ++ value.kindName ++ "' object cannot be interpreted as an integer"
  | .hugeCount => "cannot fit 'int' into an index-sized integer"

/-- The number of values fits. -/
def Signature.check (signature : Signature) (count : Nat) : Except MakingError Unit :=
  if count < signature.needed.length then
    .error (.missing signature.owner (signature.needed.drop count))
  else if signature.needed.length + signature.optional < count then
    .error (.excess signature count)
  else .ok ()

/-! ## Places and errors in a source -/

/-- The place that a file, a line and perhaps a column make. -/
def placeOfValues (values : List Setting) : Except MakingError Text := do
  Signature.check { owner := "SourceLocation", needed := ["filename", "line"], optional := 1 }
    values.length
  let part := fun index => values.getD index .null
  return placeText (part 0).plain (part 1).plain (part 2).content?

/-- The text of an error in a source; a place and a hint are shown unless they are void. -/
def sourceTextOf (message place hint : Setting) : Text :=
  sourceErrorText place.content? message.plain hint.content?

/-! ## Errors of the system -/

/-- An error of the system: its number, its reason, and the files it is about. -/
structure SystemError where
  number : Setting
  reason : Setting
  file : Option Setting := none
  otherFile : Option Setting := none

/-- The system error made of some values, of which the fourth is passed over.  Fewer than two
values, or more than five, make none. -/
def SystemError.ofValues? (values : List Setting) : Option SystemError :=
  match values with
  | number :: reason :: rest =>
    if rest.length ≤ 3 then
      some { number, reason, file := rest[0]?.bind Setting.present?,
             otherFile := rest[2]?.bind Setting.present? }
    else none
  | _ => none

/-- The text of a system error.  A second file is named only after a first one. -/
def SystemError.text (error : SystemError) : Text :=
  let about : Text := match error.file, error.otherFile with
    | some file, some other => ": " ++ file.shown ++ " -> " ++ other.shown
    | some file, none => ": " ++ file.shown
    | none, _ => []
  "[Errno " ++ error.number.plain ++ "] " ++ error.reason.plain ++ about

/-- The number of the error is one of some. -/
def SystemError.isOneOf (error : SystemError) (numbers : List Int) : Bool :=
  match error.number with
  | .integer number => numbers.contains number
  | .flag value => numbers.contains (if value then 1 else 0)
  | _ => false

/-- The numbers of errors that the user can mend: a missing file and a lack of permission. -/
def accessNumbers : List Int := [1, 2, 13]

/-- The numbers of errors about an operation that would have to wait. -/
def waitingNumbers : List Int := [11, 114, 115]

/-- The least number that is too large for a word with a sign. -/
def wordBound : Int := 0x8000000000000000

/-- A number in the place of the file, as an error about waiting has it: how much was done until
then, which must fit a word. -/
def progressOf? : Setting → Option (Except MakingError Unit)
  | .flag _ => some (.ok ())
  | .integer count =>
    some (if -wordBound ≤ count ∧ count < wordBound then .ok () else .error .hugeCount)
  | .fraction negative mantissa exponent =>
    some (.error (.noCount (.fraction negative mantissa exponent)))
  | .infinite negative => some (.error (.noCount (.infinite negative)))
  | .notANumber => some (.error (.noCount .notANumber))
  | _ => none

/-- A system error whose kind follows from its number: one about waiting may tell how much was
done in place of a file. -/
def SystemError.settled (error : SystemError) : Except MakingError SystemError :=
  match error.file.bind progressOf? with
  | some progress =>
    if error.isOneOf waitingNumbers then do
      progress
      return { error with file := none, otherFile := none }
    else .ok error
  | none => .ok error

/-- The failure that a system error causes: what the user can mend is told apart by its
number. -/
def Failure.ofSystem (values : List Setting) : Except MakingError Failure :=
  match SystemError.ofValues? values with
  | none => .ok (.internal (Setting.plainAll values))
  | some error => do
    let error ← error.settled
    return if error.isOneOf accessNumbers then .access error.text else .internal error.text

/-- The failure to get at a file, whatever the number. -/
def Failure.ofAccess (values : List Setting) : Failure :=
  .access ((SystemError.ofValues? values).elim (Setting.plainAll values) SystemError.text)

/-! ## Errors by kind -/

/-- The kinds of error that a host may hand over. -/
inductive ErrorKind where
  | setting
  | analysis
  | source
  | argument
  | access
  | system
  | other
deriving DecidableEq, Repr

/-- The failure of an argument.  Its second value stands for a command, and its first is the
message itself: one that is no text cannot be shown. -/
def Failure.ofArgument (message command : Setting) : Except MakingError Failure :=
  if !command.isVoid then .error (.noCommand command)
  else match message with
    | .text text => .ok (.argument text)
    | _ => .ok .silent

/-- The failure that the values of an error of a kind make. -/
def Failure.ofValues (kind : ErrorKind) (values : List Setting) : Except MakingError Failure := do
  let part := fun index => values.getD index .null
  match kind with
  | .setting =>
    Signature.check { owner := "ConfigError", needed := ["option", "value", "expected"] }
      values.length
    return .ofConfig (.unusable (part 0).plain (part 1) (part 2).plain)
  | .analysis => return .analysis (Setting.plainAll values)
  | .source =>
    Signature.check { owner := "SourceError", needed := ["message"], optional := 2 } values.length
    return .analysis (sourceTextOf (part 0) (part 1) (part 2))
  | .argument =>
    Signature.check { owner := "BadParameter", needed := ["message"], optional := 3 } values.length
    Failure.ofArgument (part 0) (part 1)
  | .access => return .ofAccess values
  | .system => Failure.ofSystem values
  | .other => return .internal (Setting.plainAll values)

end Sm83Cost.Command
