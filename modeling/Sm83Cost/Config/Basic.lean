import Sm83Cost.Config.Setting
import Sm83Cost.Line.Basic
import Sm83Cost.Store
import Sm83Cost.Text.Case

/-!
# Configuration

A configuration says what annotations show, how branches are charged, and what a
call that switches banks costs.  Every option has a default.  A host gives
options by name, in camel case or with underscores, and the environment gives
them in variables with a common beginning.  Names that are no option are passed
over; a value that an option cannot use is refused.
-/

namespace Sm83Cost

set_option autoImplicit false

/-- The options of an analysis and their defaults. -/
structure Config where
  enabled : Bool := true
  showByteCount : Bool := true
  showCycleCount : Bool := true
  showCumulative : Bool := true
  assumeBranchTaken : Bool := true
  predefBytes : Int := 8
  predefCycles : Int := 44
  predefJumpBytes : Int := 8
  predefJumpCycles : Int := 36
deriving DecidableEq, Repr

/-- The options that are on or off. -/
inductive Switch where
  | enabled
  | showByteCount
  | showCycleCount
  | showCumulative
  | assumeBranchTaken
deriving DecidableEq, Repr

/-- The options that count something. -/
inductive Count where
  | predefBytes
  | predefCycles
  | predefJumpBytes
  | predefJumpCycles
deriving DecidableEq, Repr

/-- One option with a value for it. -/
inductive Change where
  | switch (which : Switch) (on : Bool)
  | count (which : Count) (value : Int)
deriving DecidableEq, Repr

/-- An option, of either kind. -/
inductive OptionName where
  | switch (which : Switch)
  | count (which : Count)
deriving DecidableEq, Repr

/-- The options under their names. -/
def optionNames : List (Text × OptionName) := [
  ("enabled", .switch .enabled),
  ("show_byte_count", .switch .showByteCount),
  ("show_cycle_count", .switch .showCycleCount),
  ("show_cumulative", .switch .showCumulative),
  ("assume_branch_taken", .switch .assumeBranchTaken),
  ("predef_bytes", .count .predefBytes),
  ("predef_cycles", .count .predefCycles),
  ("predef_jump_bytes", .count .predefJumpBytes),
  ("predef_jump_cycles", .count .predefJumpCycles)]

/-- Why settings make no configuration. -/
inductive ConfigError where
  /-- A value is of no use for the option that the key names. -/
  | unusable (key : Text) (value : Setting) (expected : Text)
  /-- A count cannot be read, or a value that is refused cannot be written. -/
  | numeral (error : Numeral.Error)

/-- The refusal of a value.  The message shows the value, so all numbers in it have to be
written. -/
def ConfigError.refusal (key : Text) (value : Setting) (expected : Text) : ConfigError :=
  if value.isWritable then .unusable key value expected else .numeral .tooLongToWrite

/-- The text of an error. -/
def ConfigError.message : ConfigError → Text
  | .unusable key value expected =>
    "invalid value " ++ value.shown ++ " for option '" ++ key ++ "' (expected " ++ expected ++ ")"
  | .numeral error => error.message

namespace Config

/-! ## Changing options -/

/-- The configuration with one switch set. -/
def setSwitch (config : Config) (on : Bool) : Switch → Config
  | .enabled => { config with enabled := on }
  | .showByteCount => { config with showByteCount := on }
  | .showCycleCount => { config with showCycleCount := on }
  | .showCumulative => { config with showCumulative := on }
  | .assumeBranchTaken => { config with assumeBranchTaken := on }

/-- The configuration with one count set. -/
def setCount (config : Config) (value : Int) : Count → Config
  | .predefBytes => { config with predefBytes := value }
  | .predefCycles => { config with predefCycles := value }
  | .predefJumpBytes => { config with predefJumpBytes := value }
  | .predefJumpCycles => { config with predefJumpCycles := value }

/-- The configuration with one option changed. -/
def apply (config : Config) : Change → Config
  | .switch which on => config.setSwitch on which
  | .count which value => config.setCount value which

/-- The bytes and cycles of a call that switches banks. -/
def predefCost (config : Config) : PredefKind → Int × Int
  | .call => (config.predefBytes, config.predefCycles)
  | .jump => (config.predefJumpBytes, config.predefJumpCycles)

/-- The options with their values. -/
def fields (config : Config) : Store Setting where
  pairs := [
    ("enabled", .flag config.enabled),
    ("show_byte_count", .flag config.showByteCount),
    ("show_cycle_count", .flag config.showCycleCount),
    ("show_cumulative", .flag config.showCumulative),
    ("assume_branch_taken", .flag config.assumeBranchTaken),
    ("predef_bytes", .integer config.predefBytes),
    ("predef_cycles", .integer config.predefCycles),
    ("predef_jump_bytes", .integer config.predefJumpBytes),
    ("predef_jump_cycles", .integer config.predefJumpCycles)]

/-! ## Overriding options

A host may override options by their exact names, and such values are taken as they are: nothing
is read from them, and nothing is refused but a name. -/

/-- Why options were not overridden. -/
inductive OverrideError where
  /-- The name stands for the configuration itself. -/
  | reservedName
  /-- There is no option of the name. -/
  | unknownName (name : Text)
deriving DecidableEq, Repr

/-- The text of an error. -/
def OverrideError.message : OverrideError → Text
  | .reservedName => "MetricsConfig.replace() got multiple values for argument 'self'"
  | .unknownName name =>
    "MetricsConfig.__init__() got an unexpected keyword argument '" ++ name ++ "'"

/-- The options after overriding some of them.  The first name that is no option is refused. -/
def overridden (config : Config) (changes : Store Setting) :
    Except OverrideError (Store Setting) :=
  if changes.contains "self" then .error .reservedName
  else
    match changes.keys.find? (!config.fields.contains ·) with
    | some name => .error (.unknownName name)
    | none => .ok (changes.pairs.foldl (fun fields change => fields.put change.1 change.2)
        config.fields)

/-- The values among options that say what a call that switches banks costs. -/
def predefFields (fields : Store Setting) : PredefKind → List Setting
  | .call => ["predef_bytes", "predef_cycles"].filterMap (fields.get? ·.toList)
  | .jump => ["predef_jump_bytes", "predef_jump_cycles"].filterMap (fields.get? ·.toList)

/-! ## Reading settings -/

/-- Puts an underscore before every ASCII capital. -/
def separated : Text → Text
  | [] => []
  | c :: rest => if c.isUpper then '_' :: c :: separated rest else c :: separated rest

/-- A name in camel case with its words separated by underscores, in small letters. -/
def snakeCase : Text → Text
  | [] => []
  | c :: rest => Text.lower (c :: separated rest)

/-- The option that a key names. -/
def optionFor? (key : Text) : Option OptionName :=
  optionNames.lookup (snakeCase key)

/-- A value as a switch: a truth value, or one of the words for it. -/
def switchValue? : Setting → Option Bool
  | .flag value => some value
  | .text value =>
    let word := Text.lower (Text.trim value)
    if (["true", "1", "yes", "on"] : List Text).contains word then some true
    else if (["false", "0", "no", "off"] : List Text).contains word then some false
    else none
  | _ => none

/-- A value as a count: a number that is not negative, or a text of digits. -/
def countValue (key : Text) (value : Setting) : Except ConfigError Int :=
  let unusable := ConfigError.refusal key value "a non-negative integer"
  match value with
  | .integer number => if number < 0 then .error unusable else .ok number
  | .text text =>
    let digits := Text.trim text
    if !digits.isEmpty && digits.all Text.isDigitLike then
      match Numeral.ofDigitText digits with
      | .ok number => .ok number
      | .error error => .error (.numeral error)
    else .error unusable
  | _ => .error unusable

/-- The change that a setting asks for; none when its key is no option. -/
def changeOf (key : Text) (value : Setting) : Except ConfigError (Option Change) :=
  match optionFor? key with
  | none => .ok none
  | some (.switch which) =>
    match switchValue? value with
    | some on => .ok (some (.switch which on))
    | none => .error (.refusal key value "a boolean")
  | some (.count which) => do
    let number ← countValue key value
    return some (.count which number)

/-- The configuration after one more setting. -/
def read (config : Config) (setting : Text × Setting) : Except ConfigError Config := do
  let change ← changeOf setting.1 setting.2
  return change.elim config config.apply

/-- The configuration that settings give, starting from the defaults. -/
def ofSettings (settings : Store Setting) : Except ConfigError Config :=
  settings.pairs.foldlM read {}

/-- The keys that are passed over, up to the first setting that is refused. -/
def passedOver : List (Text × Setting) → List Text
  | [] => []
  | (key, value) :: rest =>
    match changeOf key value with
    | .ok none => key :: passedOver rest
    | .ok (some _) => passedOver rest
    | .error _ => []

/-! ## Reading the environment -/

/-- The beginning of the variables that are settings. -/
def variableStart : Text := "GBMETRICS_"

/-- The settings among the variables of an environment, under their names in small letters. -/
def settingsOf (environment : Store Setting) : Store Setting :=
  Store.ofList (environment.pairs.filterMap fun (name, value) =>
    (Text.after? variableStart name).map fun key => (Text.lower key, value))

/-- The configuration that an environment gives. -/
def ofEnvironment (environment : Store Setting) : Except ConfigError Config :=
  ofSettings (settingsOf environment)

end Config

end Sm83Cost
