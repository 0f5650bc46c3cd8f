import Sm83Cost.Routine.Comments
import Sm83Cost.Scan.Body
import Sm83Cost.Scan.Landmark

/-!
# Scanning a document

A document is walked over once from top to bottom, and so is every file that it
includes, at the place where it is included.  Macros and documented routines are
registered on the way.

A file is scanned at most once, under whatever spelling of its path, and the
document itself is never scanned as an included file.  So a scan goes no deeper
than there are files, and the depth given to it is enough.

A scan that is given up keeps what it has found until then.
-/

namespace Sm83Cost

namespace Scan

set_option autoImplicit false

/-- What a scan has found so far, the places it has been to, and its notes. -/
structure Progress where
  scanner : Scanner
  visited : List Route := []
  journal : List Record := []

/-- A scan that was given up. -/
structure Stopped where
  fault : Fault
  progress : Progress

namespace Progress

/-- Adds notes to the journal. -/
def note (progress : Progress) (records : List Record) : Progress :=
  { progress with journal := progress.journal ++ records }

/-- Adds a place to those visited. -/
def visit (progress : Progress) (place : Route) : Progress :=
  { progress with visited := progress.visited ++ [place] }

/-- Registers a macro, with a note if its name was defined before. -/
def addMacro (progress : Progress) (definition : Macro) : Progress :=
  let macros := progress.scanner.macros
  { progress with scanner := { progress.scanner with macros := macros.register definition } }.note
    (if macros.defines definition.name then [.macroRedefined definition.name] else [])

/-- Registers a routine, with a note if its name was documented before. -/
def addRoutine (progress : Progress) (definition : Routine) : Progress :=
  let routines := progress.scanner.routines
  { progress with
      scanner := { progress.scanner with routines := routines.register definition } }.note
    (if routines.defines definition.name then [.routineRedefined definition.name] else [])

@[simp]
theorem note_scanner (progress : Progress) (records : List Record) :
    (progress.note records).scanner = progress.scanner := rfl

@[simp]
theorem note_visited (progress : Progress) (records : List Record) :
    (progress.note records).visited = progress.visited := rfl

@[simp]
theorem visit_scanner (progress : Progress) (place : Route) :
    (progress.visit place).scanner = progress.scanner := rfl

@[simp]
theorem visit_visited (progress : Progress) (place : Route) :
    (progress.visit place).visited = progress.visited ++ [place] := rfl

@[simp]
theorem addMacro_scanner (progress : Progress) (definition : Macro) :
    (progress.addMacro definition).scanner =
      { progress.scanner with macros := progress.scanner.macros.register definition } := rfl

@[simp]
theorem addMacro_visited (progress : Progress) (definition : Macro) :
    (progress.addMacro definition).visited = progress.visited := rfl

@[simp]
theorem addRoutine_scanner (progress : Progress) (definition : Routine) :
    (progress.addRoutine definition).scanner =
      { progress.scanner with routines := progress.scanner.routines.register definition } := rfl

@[simp]
theorem addRoutine_visited (progress : Progress) (definition : Routine) :
    (progress.addRoutine definition).visited = progress.visited := rfl

end Progress

/-! ## Macros and routines -/

/-- All numbers can be written in decimal. -/
def writable (numbers : List Int) : Except Numeral.Error Unit :=
  numbers.forM fun number => do let _ ← Numeral.write number

/-- Measures and registers the macro of a block that ends, then notes its cost. -/
def closeBlock (block : Block) (endLine : Nat) (progress : Progress) :
    Except Stopped Progress :=
  let (body, fault) := measureAll progress.scanner block.lines
  let measured := progress.note (body.filterMap BodyLine.record)
  match fault with
  | some fault => .error ⟨fault, measured⟩
  | none =>
    let definition := block.define endLine body
    let registered := measured.addMacro definition
    match writable (definition.size :: definition.cycles.numbers) with
    | .error error => .error ⟨.numeral error, registered⟩
    | .ok _ =>
      .ok (registered.note [.macroMeasured definition.name definition.size definition.cycles])

/-- Registers the routine of a label if the comments above it say anything. -/
def documentLabel (file : Option Text) (name : Text) (line : Nat) (comments : List Text)
    (progress : Progress) : Progress :=
  let summary := Comments.summarise comments
  if summary.isSilent then progress
  else progress.addRoutine
    { name, file, line, arguments := summary.arguments, description := summary.description }

/-! ## Included files -/

/-- The directories in which an included file is looked for, beside the one that includes
it. -/
def subdirectories : List Text := ["inc", "include", "src"]

/-- The paths at which an included file is looked for, in order. -/
def places (directory : Path) (target : Text) : List Path :=
  let file := Path.ofText target
  directory.join file :: subdirectories.map fun name =>
    (directory.join { parts := [name] }).join file

/-- The first path that leads to a file, and notes on those that cannot be looked at. -/
def firstFile (tree : FileTree) : List Path → Option Path × List Record
  | [] => (none, [])
  | path :: rest =>
    match tree.isFile path with
    | .ok true => (some path, [])
    | .ok false => firstFile tree rest
    | .error error =>
      let (found, records) := firstFile tree rest
      (found, .unusablePath path error :: records)

/-- How the lines of a document are scanned, given the directory for included files and the
name of the document. -/
abbrev LineScan :=
  Option Path → Option Text → List Text → Progress → Except Stopped Progress

/-- Scans an included file unless it has been visited or is not found. -/
def scanInclusion (tree : FileTree) (scan : LineScan) (directory : Path) (target : Text)
    (progress : Progress) : Except Stopped Progress :=
  let (found, records) := firstFile tree (places directory target)
  let looked := progress.note records
  match found with
  | none => .ok (looked.note [.includeMissing target directory])
  | some path =>
    let place := tree.canonical path
    if looked.visited.contains place then .ok looked
    else match tree.readLines path with
      | .error error => .ok ((looked.visit place).note [.includeSkipped path error])
      | .ok lines =>
        scan (some path.parent) (some path.text) lines
          ((looked.visit place).note [.includeScanned path])

/-! ## Lines in order -/

/-- What is pending between lines: the comments since the last code, or a macro that has not
ended. -/
inductive Pending where
  | comments (texts : List Text)
  | block (block : Block)
deriving DecidableEq, Repr

/-- What is pending after a line without a landmark: a comment on its own is kept, blank lines
change nothing, and code drops the comments. -/
def pendingAfter (comments : List Text) (line : Line) : Pending :=
  if line.hasCode then .comments []
  else .comments (comments ++ line.comment.toList)

/-- Scans one line. -/
def scanLine (tree : FileTree) (scan : LineScan) (directory : Option Path)
    (file : Option Text) (number : Nat) (text : Text) (pending : Pending) (progress : Progress) :
    Except Stopped (Pending × Progress) :=
  let trimmed := Text.trim text
  match pending with
  | .block block =>
    if isMacroEnd trimmed then do
      let progress ← closeBlock block number progress
      return (.comments [], progress)
    else .ok (.block { block with lines := block.lines ++ [(number, text)] }, progress)
  | .comments comments =>
    match landmark? trimmed with
    | some (.inclusion target) =>
      match directory with
      | none => .ok (.comments [], progress)
      | some directory => do
        let progress ← scanInclusion tree scan directory target progress
        return (.comments [], progress)
    | some (.header name) =>
      .ok (.block { name := Text.upper name, startLine := number }, progress)
    | some (.label name) => .ok (.comments [], documentLabel file name number comments progress)
    | none =>
      match progress.scanner.parseLine text number with
      | .ok line => .ok (pendingAfter comments line, progress)
      | .error error => .error ⟨.numeral error, progress⟩

/-- Notes a macro that has not ended. -/
def finish (pending : Pending) (progress : Progress) : Progress :=
  match pending with
  | .block block => progress.note [.macroUnclosed block.name block.startLine]
  | .comments _ => progress

/-- Scans lines from the given number on. -/
def scanLines (tree : FileTree) (scan : LineScan) (directory : Option Path)
    (file : Option Text) : Nat → List Text → Pending → Progress → Except Stopped Progress
  | _, [], pending, progress => .ok (finish pending progress)
  | number, text :: rest, pending, progress => do
    let (pending, progress) ← scanLine tree scan directory file number text pending progress
    scanLines tree scan directory file (number + 1) rest pending progress

/-- Scans a document and, to the given depth, the files that it includes. -/
def scanTo (tree : FileTree) : Nat → LineScan
  | 0, _, _, _, progress => .ok progress
  | depth + 1, directory, file, lines, progress =>
    scanLines tree (scanTo tree depth) directory file 0 lines (.comments []) progress

end Scan

namespace Scanner

/-- Finds the macros of a document and its routines.  Macros found before are forgotten, and
routines are kept.  Included files are looked for only if a directory is given. -/
def scan (scanner : Scanner) (tree : FileTree) (lines : List Text) (directory : Option Path)
    (file : Option Text) : Except Scan.Stopped Scan.Progress :=
  let cleared : Scan.Progress := { scanner := { scanner with macros := .empty } }
  match file.map Path.ofText with
  | none => Scan.scanTo tree (tree.nodes.length + 1) directory file lines cleared
  | some path =>
    if path.parts.any (·.contains (Char.ofNat 0)) then .error ⟨.path path .nulByte, cleared⟩
    else Scan.scanTo tree (tree.nodes.length + 1) directory file lines
      (cleared.visit (tree.canonical path))

end Scanner

end Sm83Cost
