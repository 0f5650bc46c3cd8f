import Sm83Cost.File.Path
import Sm83Cost.Text.Quoted
import Sm83Cost.Numeral
import Sm83Cost.Text.Lines

/-!
# File trees

The files of a system, as far as they are known: a finite list of places, each
with a file, a directory or a link that leads nowhere, and the place of the
working directory.  Every place on the way to a listed one or to the working
directory is a directory.

A place is given by the names that lead to it from the root, so it has one
`Route`, while paths to it can be written in many ways: a path begins at the
root or in the working directory, and it may lead up and down again.
`canonical` computes the route from the names alone.  Following a path goes
name by name and looks at what is there, so a path through a place that does
not exist leads nowhere even if it comes back.
-/

namespace Sm83Cost

set_option autoImplicit false

/-- What is found at a place. -/
inductive Node where
  | file (bytes : List UInt8)
  | directory
  | dangling
deriving DecidableEq, Repr

/-- The way to a place: the names from the root on. -/
abbrev Route := List Text

/-- Places with what is found there, and the working directory. -/
structure FileTree where
  nodes : List (Route × Node) := []
  home : Route := []
deriving DecidableEq, Repr

/-- Why a path cannot be used. -/
inductive PathError where
  | missing
  | notDirectory
  | isDirectory
  | tooLong
  | nulByte
deriving DecidableEq, Repr

namespace PathError

/-- The number of the error in the system's list; a NUL counts as an invalid argument. -/
def number : PathError → Nat
  | .missing => 2
  | .notDirectory => 20
  | .isDirectory => 21
  | .nulByte => 22
  | .tooLong => 36

/-- The error in words. -/
def reason : PathError → Text
  | .missing => "No such file or directory"
  | .notDirectory => "Not a directory"
  | .isDirectory => "Is a directory"
  | .tooLong => "File name too long"
  | .nulByte => "embedded null byte"

/-- The error with its number and the path it arose for, as written.  A path with a NUL does not
reach the system, so nothing but the reason is known. -/
def describeAt (error : PathError) (written : Text) : Text :=
  if error = .nulByte then error.reason
  else
    "[Errno " ++ Numeral.decimal error.number ++ "] " ++ error.reason ++ ": "
      ++ Text.quoted written

/-- The error with its number and the path it arose for. -/
def describe (error : PathError) (path : Path) : Text :=
  error.describeAt path.text

end PathError

namespace FileTree

/-! ## Places -/

/-- The ways to all that is known: to the working directory and to the listed places. -/
def ways (tree : FileTree) : List Route :=
  tree.home :: tree.nodes.map Prod.fst

/-- What is at a place.  The working directory is one, and so is every place on the way to
something. -/
def node? (tree : FileTree) (route : Route) : Option Node :=
  if route.isPrefixOf tree.home then some .directory
  else match tree.nodes.lookup route with
    | some node => some node
    | none => if tree.ways.any (route.isPrefixOf ·) then some .directory else none

/-- Where a path begins. -/
def start (tree : FileTree) (absolute : Bool) : Route :=
  if absolute then [] else tree.home

/-- The route behind a name, judged by the name alone.  A name that is empty or a point stays, and
above the root there is nothing. -/
def enter (here : Route) (part : Text) : Route :=
  if part = [] ∨ part = "." then here
  else if part = Path.up then here.dropLast
  else here ++ [part]

/-- The route to the place that a path names, with every way up taken: different spellings of one
place have one route. -/
def canonical (tree : FileTree) (path : Path) : Route :=
  path.parts.foldl enter (tree.start path.isAbsolute)

/-! ## Following paths -/

/-- The most bytes of a name. -/
def nameLimit : Nat := 255

/-- The least number of bytes with which a whole path is too long. -/
def pathBound : Nat := 4096

/-- The place of a name in a directory, unless there is nothing or a link that leads nowhere. -/
def child? (tree : FileTree) (here : Route) (name : Text) : Option Route :=
  if (tree.node? (here ++ [name])).any (· != .dangling) then some (here ++ [name]) else none

/-- Goes from a place by names.  A name that is empty or a point stays at a directory, and the
directory above the root is the root. -/
def follow (tree : FileTree) : Route → List Text → Except PathError Route
  | here, [] => .ok here
  | here, part :: rest =>
    if tree.node? here ≠ some .directory then .error .notDirectory
    else if part = [] ∨ part = "." then follow tree here rest
    else if part = Path.up then follow tree here.dropLast rest
    else if nameLimit < Text.Utf8.size part then .error .tooLong
    else match tree.child? here part with
      | none => .error .missing
      | some there => follow tree there rest

/-- The place that names lead to, where `written` is the path as written and `absolute` tells
that it begins at the root. -/
def locateParts (tree : FileTree) (written : Text) (absolute : Bool) (parts : List Text) :
    Except PathError Route :=
  if written.contains (Char.ofNat 0) then .error .nulByte
  else if pathBound ≤ Text.Utf8.size written then .error .tooLong
  else tree.follow (tree.start absolute) parts

/-- The place that a path leads to. -/
def locate (tree : FileTree) (path : Path) : Except PathError Route :=
  tree.locateParts path.text path.isAbsolute path.parts

/-- The place that a path leads to, exactly as written: a slash at the end asks for a
directory. -/
def locateWritten (tree : FileTree) (written : Text) : Except PathError Route :=
  if written = [] then .error .missing
  else
    tree.locateParts written (written.head? == some '/') (Text.splitWhere (· == '/') written)

/-- The path leads to a directory. -/
def isDirectory (tree : FileTree) (path : Path) : Bool :=
  match tree.locate path with
  | .ok route => tree.node? route = some .directory
  | .error _ => false

/-- The bytes of the file at the end of a path. -/
def read (tree : FileTree) (path : Path) : Except PathError (List UInt8) := do
  let route ← tree.locate path
  match tree.node? route with
  | some (.file bytes) => return bytes
  | some .directory => throw .isDirectory
  | _ => throw .missing

/-- The lines of the file at the end of a path. -/
def readLines (tree : FileTree) (path : Path) : Except PathError (List Text) := do
  let bytes ← tree.read path
  return Text.lines (Text.Utf8.decode bytes)

/-- The path leads to a file; an overlong one is an error. -/
def isFile (tree : FileTree) (path : Path) : Except PathError Bool :=
  match tree.read path with
  | .ok _ => .ok true
  | .error .tooLong => .error .tooLong
  | .error _ => .ok false

/-! ## Source files below a directory -/

/-- The directories that are not entered. -/
def skippedDirectories : List Text := ["node_modules", ".git", "build", "dist", "obj", "bin"]

/-- The names in a directory, each once, in order of code points. -/
def childNames (tree : FileTree) (route : Route) : List Text :=
  let names := tree.ways.filterMap fun way => (route.isPrefixOf? way).bind List.head?
  Text.sorted names.eraseDups

/-- The name stands for a directory. -/
def hasDirectory (tree : FileTree) (route : Route) (name : Text) : Bool :=
  tree.node? (route ++ [name]) == some .directory

/-- What a walk over directories comes upon. -/
inductive Finding where
  /-- A source file. -/
  | source (path : Path)
  /-- A directory that cannot be listed, as the walk spells it. -/
  | unlisted (directory : Text) (error : PathError)
deriving DecidableEq, Repr

/-- The source file, if it is one. -/
def Finding.source? : Finding → Option Path
  | .source path => some path
  | .unlisted _ _ => none

/-- A name in a directory, as a walk spells it: behind a slash, unless the spelling of the directory
ends with one. -/
def spell (directory name : Text) : Text :=
  if directory.getLast? = some '/' then directory ++ name else directory ++ '/' :: name

/-- Walks over the directory at a place: first the source files in it, then its directories in
turn.  The walk spells a directory by appending names to the spelling of the root, and one with
an overlong spelling cannot be listed.  Directories are entered to the given depth. -/
def walkBelow (tree : FileTree) : (depth : Nat) → (spelled : Text) → Path → Route → List Finding
  | 0, _, _, _ => []
  | depth + 1, spelled, directory, route =>
    if pathBound ≤ Text.Utf8.size spelled then [.unlisted spelled .tooLong]
    else
      let names := tree.childNames route
      let files := names.filter fun name =>
        !tree.hasDirectory route name && Path.isSource { parts := [name] }
      let directories := names.filter fun name =>
        tree.hasDirectory route name && !skippedDirectories.contains name
      files.map (fun name => .source (directory.join { parts := [name] }))
        ++ directories.flatMap fun name =>
            tree.walkBelow depth (spell spelled name) (directory.join { parts := [name] })
              (route ++ [name])

/-- The length of the longest way. -/
def depth (tree : FileTree) : Nat :=
  (tree.ways.map List.length).foldl max 0

/-- Walks from the place that a root leads to: over a directory, or to the file at the place if it
is a source file. -/
def walkAt (tree : FileTree) (root : Path) (route : Route) : List Finding :=
  match tree.node? route with
  | some (.file _) => if root.isSource then [.source root] else []
  | some .directory => tree.walkBelow (tree.depth + 1) root.text root route
  | _ => []

/-- Walks from a root.  Where the root leads nowhere, nothing can be listed; a root that is no path
at all is an error. -/
def walk (tree : FileTree) (root : Path) : Except PathError (List Finding) :=
  match tree.locate root with
  | .ok route => .ok (tree.walkAt root route)
  | .error .tooLong => .error .tooLong
  | .error .nulByte => .error .nulByte
  | .error error => .ok [.unlisted root.text error]

/-- The source files below a root, or the root itself if it is one. -/
def sourceFiles (tree : FileTree) (root : Path) : Except PathError (List Path) :=
  (tree.walk root).map (·.filterMap Finding.source?)

end FileTree

end Sm83Cost
