import Sm83Cost.Text.Basic

/-!
# Options on the command line

Arguments are read from left to right.  A long option begins with two dashes and
may have its value after an equals sign; short options may be written together,
and the rest of such a group is the value of the first one that takes a value.
Otherwise the value is the next argument, whatever it looks like.  Two dashes
alone end the options.
-/

namespace Sm83Cost.Command

set_option autoImplicit false

/-- Why arguments are refused before a command begins. -/
inductive UsageError where
  /-- No command has this option. -/
  | unknownOption
  /-- An option lacks its value, or has one that it does not take. -/
  | optionUse
  /-- An argument is missing. -/
  | missingArgument
  /-- A value is of no use for its option or argument. -/
  | badValue
  /-- There are no arguments at all. -/
  | noArguments
  /-- A command is missing or unknown, or has too many arguments. -/
  | usage
  /-- A path holds a NUL, which no system call takes. -/
  | nulByte
deriving DecidableEq, Repr

/-- An option: its long name, perhaps a short one, and whether it takes a value. -/
structure OptionSpec (κ : Type) where
  key : κ
  long : Text
  short : Option Char := none
  takesValue : Bool := false

/-- The options in the order given, each with its value or an empty text, and all other
arguments. -/
structure Given (κ : Type) where
  options : List (κ × Text) := []
  arguments : List Text := []

variable {κ : Type}

/-- Cuts an argument at its first equals sign. -/
def cutValue (argument : Text) : Text × Option Text :=
  match argument.dropWhile (· != '=') with
  | [] => (argument, none)
  | _ :: value => (argument.takeWhile (· != '='), some value)

/-- The short options of a group.  Tells the option that waits for its value, if any. -/
def readGroup (specs : List (OptionSpec κ)) :
    Text → Except UsageError (List (κ × Text) × Option κ)
  | [] => .ok ([], none)
  | letter :: rest =>
    match specs.find? (·.short == some letter) with
    | none => .error .unknownOption
    | some spec =>
      if spec.takesValue then
        if rest.isEmpty then .ok ([], some spec.key) else .ok ([(spec.key, rest)], none)
      else do
        let (options, waiting) ← readGroup specs rest
        return ((spec.key, []) :: options, waiting)

/-- The options in one argument that begins with a dash. -/
def readOption (specs : List (OptionSpec κ)) (argument : Text) :
    Except UsageError (List (κ × Text) × Option κ) :=
  let (name, value) := cutValue argument
  match specs.find? (·.long == name), value with
  | some spec, none =>
    if spec.takesValue then .ok ([], some spec.key) else .ok ([(spec.key, [])], none)
  | some spec, some value =>
    if spec.takesValue then .ok ([(spec.key, value)], none) else .error .optionUse
  | none, _ =>
    if ("--" : Text).isPrefixOf argument then .error .unknownOption
    else readGroup specs (argument.drop 1)

/-- The argument holds options. -/
def isOption (argument : Text) : Bool :=
  argument.head? == some '-' && 1 < argument.length

/-- Puts options in front. -/
def Given.addOptions (options : List (κ × Text)) (given : Given κ) : Given κ :=
  { given with options := options ++ given.options }

/-- Puts an argument in front. -/
def Given.addArgument (argument : Text) (given : Given κ) : Given κ :=
  { given with arguments := argument :: given.arguments }

/-- Reads arguments, given the option that waits for its value.  Unless options may follow
other arguments, the first of those ends them. -/
def readArguments (specs : List (OptionSpec κ)) (mixed : Bool) :
    Option κ → List Text → Except UsageError (Given κ)
  | none, [] => .ok {}
  | some _, [] => .error .optionUse
  | some key, value :: rest => do
    let given ← readArguments specs mixed none rest
    return given.addOptions [(key, value)]
  | none, argument :: rest =>
    if argument = "--" then .ok { arguments := rest }
    else if isOption argument then do
      let (options, waiting) ← readOption specs argument
      let given ← readArguments specs mixed waiting rest
      return given.addOptions options
    else if mixed then do
      let given ← readArguments specs mixed none rest
      return given.addArgument argument
    else .ok { arguments := argument :: rest }

/-- The option was given. -/
def Given.has [BEq κ] (given : Given κ) (key : κ) : Bool :=
  given.options.any (·.1 == key)

/-- The last value given for an option. -/
def Given.value? [BEq κ] (given : Given κ) (key : κ) : Option Text :=
  (given.options.reverse.find? (·.1 == key)).map Prod.snd

end Sm83Cost.Command
