import Sm83Cost.Command.Run

/-!
# The program

Gathers the files below the working directory and the variables of the
environment, runs the command line on them, and shows what it reports.
-/

namespace Sm83Cost

set_option autoImplicit false

/-- What is said about arguments that are refused. -/
def Command.UsageError.message : Command.UsageError → Text
  | .unknownOption => "no such option"
  | .optionUse => "an option lacks its value or takes none"
  | .missingArgument => "an argument is missing"
  | .badValue => "a value is not usable"
  | .noArguments => "usage: gbmetrics [-v] [--version] annotate | lookup | routines ..."
  | .usage => "unknown command or unexpected argument"
  | .nulByte => "a path holds a NUL"

/-- The variables of the environment as the system keeps them: a name, an equals sign and a
value each, ended by a NUL. -/
def variablesOf (bytes : List UInt8) : Store Text :=
  let entries := Text.splitWhere (·.toNat == 0) (Text.Utf8.decode bytes)
  Store.ofList (entries.filterMap fun entry =>
    match entry.dropWhile (· != '=') with
    | _ :: value => some (entry.takeWhile (· != '='), value)
    | [] => none)

/-- The environment of the process, empty where it cannot be read. -/
def currentVariables : IO (Store Text) := do
  try
    let bytes ← IO.FS.readBinFile "/proc/self/environ"
    return variablesOf bytes.toList
  catch _ => return .empty

/-- The places below a directory, which is reached by the given route.  Links to directories
are not followed. -/
partial def placesBelow (entries : Array IO.FS.DirEntry) (route : Route) :
    IO (List (Route × Node)) := do
  let mut places := []
  for entry in entries do
    let here := route ++ [entry.fileName.toList]
    let found ← try
        let own ← entry.path.symlinkMetadata
        match own.type with
        | .dir =>
          let below ← entry.path.readDir
          let nested ← placesBelow below here
          pure ((here, Node.directory) :: nested)
        | _ =>
          let bytes ← IO.FS.readBinFile entry.path
          pure [(here, Node.file bytes.toList)]
      catch _ => pure [(here, Node.dangling)]
    places := places ++ found
  return places

/-- The files below the working directory.  Of what lies elsewhere only the directories above it are
known. -/
def currentTree : IO FileTree := do
  let directory ← IO.currentDir
  let home := Path.partsOf directory.toString.toList
  let entries ← directory.readDir
  let nodes ← placesBelow entries home
  return { nodes, home }

/-- Shows a report and gives the code to end with. -/
def showReport (report : Command.Report) : IO UInt32 := do
  (← IO.getStdout).putStr (String.ofList report.output)
  (← IO.getStderr).putStr (String.ofList report.errors)
  return UInt32.ofNat report.code

end Sm83Cost

/-- Runs the command line in the working directory. -/
def main (arguments : List String) : IO UInt32 := do
  let tree ← Sm83Cost.currentTree
  let environment ← Sm83Cost.currentVariables
  match Sm83Cost.Command.run { tree, environment } (arguments.map String.toList) with
  | .report report => Sm83Cost.showReport report
  | .refused error =>
    Sm83Cost.showReport
      { code := 2, errors := Sm83Cost.Command.shown ("Error: " ++ error.message) }
