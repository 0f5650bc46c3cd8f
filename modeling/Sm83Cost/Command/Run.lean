import Sm83Cost.Command.Failure
import Sm83Cost.Command.Help
import Sm83Cost.Command.Options
import Sm83Cost.Cost.Session
import Sm83Cost.Listing
import Sm83Cost.Opcode.Describe
import Sm83Cost.Routine.Describe
import Sm83Cost.Workspace

/-!
# The commands

`annotate` shows a source file with the cost of its lines, `lookup` describes
one instruction, and `routines` lists the documented routines below some
directories.  The journal goes to the error stream of a verbose command, before
anything else there.
-/

namespace Sm83Cost.Command

set_option autoImplicit false

/-- The world a command runs in. -/
structure World where
  tree : FileTree := {}
  environment : Store Text := .empty

/-- What becomes of a command line: a report, or arguments that are refused. -/
inductive Answer where
  | report (report : Report)
  | refused (error : UsageError)
deriving DecidableEq, Repr

/-- The journal as a verbose command shows it. -/
def journalText (verbose : Bool) (journal : List Record) : Text :=
  if verbose then journal.flatMap fun record => record.line ++ ['\n'] else []

/-- The report with the journal before its errors. -/
def Report.withJournal (report : Report) (verbose : Bool) (journal : List Record) : Report :=
  { report with errors := journalText verbose journal ++ report.errors }

/-- A report of output alone, one text after another. -/
def success (texts : List Text) : Report where
  output := texts.flatMap shown

/-- The texts that a command has shown, and why it then gave up, if it did. -/
structure Display where
  texts : List Text := []
  failure : Option Failure := none

/-- The report on what a command has shown; `activity` says what it was about. -/
def Display.report (display : Display) (verbose : Bool) (activity : Option Text) : Report :=
  match display.failure with
  | none => success display.texts
  | some failure =>
    { failure.report verbose activity with output := (success display.texts).output }

/-- A report of a question without an answer. -/
def noAnswer (message : Text) : Report where
  code := 1
  errors := shown ("Error: " ++ message)

/-- What a command is asked for: its page of help, or a task. -/
inductive Request (τ : Type) where
  | help
  | task (asked : τ)

/-- Answers a request, given the page of help and how to do the task. -/
def Request.report {τ : Type} (page : Text) (perform : τ → Report) : Request τ → Report
  | .help => success [page]
  | .task asked => perform asked

/-- The option that asks for help. -/
def helpSpec {κ : Type} (key : κ) : OptionSpec κ := { key, long := "--help" }

/-! ## Annotating a file -/

/-- The options of `annotate`. -/
inductive AnnotateOption where
  | help
  | startLine
  | notTaken
  | count (which : Count)
  | noCumulative
  | details
deriving DecidableEq

/-- How the options of `annotate` are written. -/
def annotateSpecs : List (OptionSpec AnnotateOption) := [
  helpSpec .help,
  { key := .startLine, long := "--start-line", short := some 's', takesValue := true },
  { key := .notTaken, long := "--not-taken" },
  { key := .count .predefBytes, long := "--predef-bytes", takesValue := true },
  { key := .count .predefCycles, long := "--predef-cycles", takesValue := true },
  { key := .count .predefJumpBytes, long := "--predef-jump-bytes", takesValue := true },
  { key := .count .predefJumpCycles, long := "--predef-jump-cycles", takesValue := true },
  { key := .noCumulative, long := "--no-cumulative" },
  { key := .details, long := "--details", short := some 'd' }]

/-- What `annotate` is asked to do. -/
structure AnnotateTask where
  file : Path
  startLine : Option Int := none
  changes : List Change := []
  details : Bool := false

/-- The number that an option was given, which must not be below a least one. -/
def numberGiven? (given : Given AnnotateOption) (key : AnnotateOption) (least : Int) :
    Except UsageError (Option Int) :=
  match given.value? key with
  | none => .ok none
  | some text =>
    match Numeral.read? 10 text with
    | some number => if number < least then .error .badValue else .ok (some number)
    | none => .error .badValue

/-- The changes to counts that were asked for. -/
def countChanges (given : Given AnnotateOption) : Except UsageError (List Change) := do
  let counts : List Count := [.predefBytes, .predefCycles, .predefJumpBytes, .predefJumpCycles]
  let changes ← counts.mapM fun which => do
    let number ← numberGiven? given (.count which) 0
    return number.map (Change.count which)
  return changes.filterMap id

/-- The changes to switches that were asked for. -/
def switchChanges (given : Given AnnotateOption) : List Change :=
  (if given.has .notTaken then [.switch .assumeBranchTaken false] else [])
    ++ (if given.has .noCumulative then [.switch .showCumulative false] else [])

/-- The place that a path leads to, which must exist. -/
def existing (world : World) (written : Text) : Except UsageError Route :=
  match world.tree.locateWritten written with
  | .ok route => .ok route
  | .error .nulByte => .error .nulByte
  | .error _ => .error .badValue

/-- The path exists and names no directory. -/
def existingFile (world : World) (written : Text) : Except UsageError Path := do
  let route ← existing world written
  if world.tree.node? route = some .directory then throw .badValue
  return Path.ofText written

/-- Reads the arguments of `annotate`.  Options are judged before the file, and arguments in
excess last; a request for help comes before all of them. -/
def readAnnotate (world : World) (arguments : List Text) :
    Except UsageError (Request AnnotateTask) := do
  let given ← readArguments annotateSpecs true none arguments
  if given.has .help then return .help
  let startLine ← numberGiven? given .startLine 1
  let counts ← countChanges given
  match given.arguments with
  | [] => throw .missingArgument
  | written :: excess =>
    let file ← existingFile world written
    if excess.isEmpty then
      return .task { file, startLine, changes := counts ++ switchChanges given,
                     details := given.has .details }
    else throw .usage

/-- The line with the total. -/
def totalLine (startLine : Option Int) (total : Cost) : Except Numeral.Error Text := do
  let bytes ← Numeral.write total.bytes
  let cycles ← Numeral.write total.cycles
  let origin : Text := match startLine with
    | some line => " from line " ++ Numeral.signed line
    | none => []
  return "\nTotal" ++ origin ++ ": " ++ bytes ++ " bytes, " ++ cycles ++ " cycles"

/-- The session of an analysis that begins at a line; counting lines from one. -/
def sessionFrom (config : Config) (file : Path) (startLine : Option Int) : Session :=
  { config, startPoints := startLine.elim .empty fun line =>
      StartPoints.set .empty (some file.text) (line - 1) }

/-- Shows the result of an analysis: the listing, and then the total. -/
def showCosts (config : Config) (task : AnnotateTask) (lines : List Text) (costs : List LineCost) :
    Display :=
  match Listing.render config lines costs task.details with
  | .error error => { failure := some (.internal error.message) }
  | .ok listing =>
    match totalLine task.startLine (totals costs) with
    | .error error => { texts := listing, failure := some (.internal error.message) }
    | .ok total => { texts := listing ++ [total] }

/-- Analyses and shows a file with the given configuration, and tells the notes taken. -/
def annotateWith (world : World) (config : Config) (task : AnnotateTask) :
    List Record × Display :=
  match world.tree.readSource task.file with
  | .error error => ([], { failure := some (.ofRead error) })
  | .ok lines =>
    if task.startLine.any ((lines.length : Int) < ·) then
      let message : Text := "file has only " ++ Numeral.decimal lines.length ++ " lines"
      ([], { failure := some (.argument message) })
    else
      let session := sessionFrom config task.file task.startLine
      let outcome :=
        session.analyse world.tree lines (some task.file.text) (some task.file.parent) true
      match outcome.result with
      | .error fault => (outcome.journal, { failure := some (.internal fault.message) })
      | .ok costs => (outcome.journal, showCosts config task lines costs)

/-- Analyses and shows a file with the configuration that settings and options give. -/
def annotateFrom (world : World) (settings : Store Setting) (task : AnnotateTask) :
    List Record × Display :=
  match Config.ofSettings settings with
  | .error error => ([], { failure := some (.ofConfig error) })
  | .ok config => annotateWith world (task.changes.foldl Config.apply config) task

/-- Shows a file with the cost of its lines. -/
def annotate (world : World) (verbose : Bool) (task : AnnotateTask) : Report :=
  let settings := Config.settingsOf (world.environment.map .text)
  let ignored := (Config.passedOver settings.pairs).map Record.settingIgnored
  let (journal, display) := annotateFrom world settings task
  (display.report verbose (some "Analysis".toList)).withJournal verbose (ignored ++ journal)

/-! ## Looking an instruction up -/

/-- The entry for an instruction as written; none when it is unknown. -/
def entryFor (written : Text) : Except Numeral.Error (Line × Option Opcode.Entry) := do
  let line ← Line.parse (fun _ => false) 0 written
  match line.operation with
  | none => return (line, none)
  | some operation =>
    let entry ← Opcode.Table.standard.lookup operation.mnemonic operation.operands
    return (line, entry)

/-- The complaint about an instruction that is unknown. -/
def unknownText (written : Text) (line : Line) : Text :=
  match line.operation with
  | none => "unknown instruction: " ++ Text.trim written
  | some operation =>
    if Opcode.mnemonics.contains operation.mnemonic then
      "no " ++ operation.mnemonic ++ " form takes operands: "
        ++ Text.joined ", " operation.operands
    else "unknown instruction: " ++ Text.trim written

/-- Describes an instruction. -/
def lookup (verbose : Bool) (written : Text) : Report :=
  match entryFor written with
  | .error error => (Failure.internal error.message).report verbose none
  | .ok (_, some entry) => success [entry.describe]
  | .ok (line, none) =>
    (noAnswer (unknownText written line)).withJournal verbose
      (line.operation.toList.map fun operation =>
        .unknownInstruction operation.mnemonic operation.operands)

/-- Reads the arguments of `lookup`, whose only option asks for help. -/
def readLookup (arguments : List Text) : Except UsageError (Request Text) := do
  let given ← readArguments [helpSpec ()] true none arguments
  if given.has () then return .help
  match given.arguments with
  | [] => throw .missingArgument
  | [written] => return .task written
  | _ => throw .usage

/-! ## Listing routines -/

/-- What `routines` is asked to do. -/
structure RoutineQuery where
  roots : List Path
  name : Option Text := none

/-- The options of `routines`. -/
inductive RoutineOption where
  | help
  | name
deriving DecidableEq

/-- How the options of `routines` are written. -/
def routineSpecs : List (OptionSpec RoutineOption) := [
  helpSpec .help,
  { key := .name, long := "--name", short := some 'n', takesValue := true }]

/-- The path exists. -/
def existingPath (world : World) (written : Text) : Except UsageError Path := do
  let _ ← existing world written
  return Path.ofText written

/-- Reads the arguments of `routines`. -/
def readQuery (world : World) (arguments : List Text) :
    Except UsageError (Request RoutineQuery) := do
  let given ← readArguments routineSpecs true none arguments
  if given.has .help then return .help
  if given.arguments.isEmpty then throw .missingArgument
  let roots ← given.arguments.mapM (existingPath world)
  return .task { roots, name := given.value? .name }

/-- The only root, if it is a directory: places are shown as seen from there. -/
def commonRoot? (world : World) : List Path → Option Path
  | [root] => if world.tree.isDirectory root then some root else none
  | _ => none

/-- The routines in the order of their names without regard to case. -/
def byName (routines : List Routine) : List Routine :=
  routines.mergeSort fun first second =>
    Text.precedes (Text.upper first.name) (Text.upper second.name)

/-- Shows the routines of a workspace. -/
def showRoutines (workspace : Workspace) (count : Nat) (root : Option Path)
    (name : Option Text) : Except Fault Report := Fault.ofNumeral do
  match name with
  | some name =>
    match workspace.find? name with
    | some routine => return success [← routine.describe root]
    | none => return noAnswer ("no documentation found for '" ++ name ++ "'")
  | none =>
    match byName workspace.scanner.routines.values with
    | [] =>
      return success
        ["No documented routines found (" ++ Numeral.decimal count ++ " files scanned)."]
    | routines =>
      let described ← routines.mapM (·.describe root)
      return success [
        Text.joined "\n\n" described,
        "\n" ++ Numeral.decimal routines.length ++ " documented routines in "
          ++ Numeral.decimal count ++ " files"]

/-- Lists the routines below some roots. -/
def routines (world : World) (verbose : Bool) (query : RoutineQuery) : Report :=
  let outcome := Workspace.scan {} world.tree query.roots
  let shown := outcome.result.bind fun count =>
    showRoutines outcome.workspace count (commonRoot? world query.roots) query.name
  let report := match shown with
    | .error fault => (Failure.internal fault.message).report verbose none
    | .ok report => report
  report.withJournal verbose outcome.journal

/-! ## The command line -/

/-- The options before the command. -/
inductive GroupOption where
  | help
  | verbose
  | version
deriving DecidableEq

/-- How the options before the command are written. -/
def groupSpecs : List (OptionSpec GroupOption) := [
  helpSpec .help,
  { key := .verbose, long := "--verbose", short := some 'v' },
  { key := .version, long := "--version" }]

/-- Runs a command by name; none when there is no such command. -/
def runCommand? (world : World) (verbose : Bool) (name : Text) (arguments : List Text) :
    Option (Except UsageError Report) :=
  if name = "annotate" then
    some ((readAnnotate world arguments).map
      (Request.report Help.annotate (annotate world verbose)))
  else if name = "lookup" then
    some ((readLookup arguments).map (Request.report Help.lookup (lookup verbose)))
  else if name = "routines" then
    some ((readQuery world arguments).map
      (Request.report Help.routines (routines world verbose)))
  else none

/-- The report on the version. -/
def versionReport : Report := success ["gbmetrics, version 1.0.0".toList]

/-- The report that options ask for by themselves: help or the version, whichever comes
first. -/
def immediate? (given : Given GroupOption) : Option Report :=
  given.options.findSome? fun (key, _) =>
    match key with
    | .help => some (success [Help.program])
    | .version => some versionReport
    | .verbose => none

/-- What becomes of a command that does not exist: if it looks like an option, it is read as
one before it is refused. -/
def unknownCommand (arguments : List Text) : Except UsageError Report := do
  if arguments.head?.any isOption then
    let given ← readArguments groupSpecs false none arguments
    if let some report := immediate? given then return report
  throw .usage

/-- Runs a command line. -/
def runArguments (world : World) (arguments : List Text) : Except UsageError Report := do
  if arguments.isEmpty then throw .noArguments
  let given ← readArguments groupSpecs false none arguments
  if let some report := immediate? given then return report
  match given.arguments with
  | [] => throw .usage
  | name :: rest =>
    match runCommand? world (given.has .verbose) name rest with
    | some result => result
    | none => unknownCommand (name :: rest)

/-- Runs a command line in a world. -/
def run (world : World) (arguments : List Text) : Answer :=
  match runArguments world arguments with
  | .ok report => .report report.final
  | .error error => .refused error

end Sm83Cost.Command
