import Sm83Cost.Scan.Document

/-!
# Workspaces

A workspace knows the documented routines of all source files below some roots.
Each file is scanned with its own directory for the files it includes; routines
add up, while the macros are those of the file scanned last.

For a line of source it tells which documented routines the line refers to: the
one that control goes to, and those whose name stands after an opening bracket.
-/

namespace Sm83Cost

set_option autoImplicit false

/-- The routines of a set of source files. -/
structure Workspace where
  scanner : Scanner := {}

namespace Workspace

/-! ## Scanning -/

/-- The workspace after scanning files, the notes, and the number of files or why scanning was
given up. -/
structure Outcome where
  workspace : Workspace
  journal : List Record := []
  result : Except Fault Nat

/-- Scans the files that a walk comes upon, in order.  A file that cannot be read is passed over and
not counted. -/
def scanFiles (tree : FileTree) :
    Scanner → (count : Nat) → List Record → List FileTree.Finding → Outcome
  | scanner, count, journal, [] => { workspace := { scanner }, journal, result := .ok count }
  | scanner, count, journal, .unlisted directory error :: rest =>
    scanFiles tree scanner count (journal ++ [.directoryUnlisted directory error]) rest
  | scanner, count, journal, .source path :: rest =>
    match tree.readLines path with
    | .error error => scanFiles tree scanner count (journal ++ [.fileSkipped path error]) rest
    | .ok lines =>
      match scanner.scan tree lines (some path.parent) (some path.text) with
      | .ok progress =>
        scanFiles tree progress.scanner (count + 1) (journal ++ progress.journal) rest
      | .error stopped =>
        { workspace := { scanner := stopped.progress.scanner },
          journal := journal ++ stopped.progress.journal, result := .error stopped.fault }

/-- Scans the source files below roots, one root after another, up to the first root that is no
path. -/
def scanRoots (tree : FileTree) : Scanner → (count : Nat) → List Record → List Path → Outcome
  | scanner, count, journal, [] => { workspace := { scanner }, journal, result := .ok count }
  | scanner, count, journal, root :: rest =>
    match tree.walk root with
    | .error error => { workspace := { scanner }, journal, result := .error (.path root error) }
    | .ok findings =>
      let outcome := scanFiles tree scanner count journal findings
      match outcome.result with
      | .error _ => outcome
      | .ok count => scanRoots tree outcome.workspace.scanner count outcome.journal rest

/-- Forgets everything and scans the source files below the roots. -/
def scan (workspace : Workspace) (tree : FileTree) (roots : List Path) : Outcome :=
  let outcome := scanRoots tree workspace.scanner.clear 0 [] roots
  match outcome.result with
  | .error _ => outcome
  | .ok count =>
    let routines := outcome.workspace.scanner.routines.pairs.length
    { outcome with journal := outcome.journal ++ [.finished count routines] }

/-! ## Asking -/

/-- The routine of a name. -/
def find? (workspace : Workspace) (name : Text) : Option Routine :=
  workspace.scanner.routines.find? name

/-- The name at the beginning of a text, if an ASCII letter or underscore begins it. -/
def leadingName? : Text → Option Text
  | [] => none
  | c :: rest => if c.isAlpha || c == '_' then some (c :: rest.takeWhile Text.isWord) else none

/-- The names that stand after opening brackets. -/
def bracketedNames : Text → List Text
  | [] => []
  | c :: rest => (if c = '[' then (leadingName? rest).toList else []) ++ bracketedNames rest

/-- The names that a line refers to: where control goes, then those in its operands. -/
def referredNames (line : Line) : List Text :=
  line.transferTarget?.toList
    ++ (line.operation.elim [] Operation.operands).flatMap bracketedNames

/-- The routines of names, each once, in the order of the names. -/
def routinesOf (workspace : Workspace) (names : List Text) : List Routine :=
  (names.filterMap workspace.find?).eraseDups

/-- The documented routines that a line refers to. -/
def documentation (workspace : Workspace) (text : Text) (number : Int) :
    Except Numeral.Error (List Routine) := do
  let line ← workspace.scanner.parseLine text number
  return workspace.routinesOf (referredNames line)

end Workspace

end Sm83Cost
