import Sm83Cost.Text.Case
import Sm83Cost.Text.Utf8

/-!
# Paths

A path is a list of names, from the working directory or from the root.  Empty
names and single points vanish when a path is read; double points stay, since
what they mean depends on the names before them.
-/

namespace Sm83Cost

set_option autoImplicit false

/-- A path: how many slashes it begins with, none, one or two, and its names. -/
structure Path where
  slashes : Nat := 0
  parts : List Text := []
deriving DecidableEq, Repr

namespace Path

/-- The name of the directory above. -/
def up : Text := ".."

/-- The names of a written path, with empty ones and single points left out. -/
def partsOf (text : Text) : List Text :=
  (Text.splitWhere (· == '/') text).filter fun part => !part.isEmpty && part != "."

/-- The number of slashes that a written path keeps at its beginning: two stay two, and more
count as one. -/
def leadingSlashes (text : Text) : Nat :=
  match (text.takeWhile (· == '/')).length with
  | 0 => 0
  | 2 => 2
  | _ => 1

/-- Reads a path. -/
def ofText (text : Text) : Path where
  slashes := leadingSlashes text
  parts := partsOf text

/-- Writes a path; one without names is written as a point. -/
def text (path : Path) : Text :=
  if path.slashes = 0 ∧ path.parts = [] then "."
  else List.replicate path.slashes '/' ++ Text.joined "/" path.parts

/-- The path begins at the root. -/
def isAbsolute (path : Path) : Bool :=
  path.slashes != 0

/-- A path read from a directory; an absolute one does not depend on it. -/
def join (directory path : Path) : Path :=
  if path.isAbsolute then path else { directory with parts := directory.parts ++ path.parts }

/-- The directory that a path names something in. -/
def parent (path : Path) : Path :=
  { path with parts := path.parts.dropLast }

/-- The path as seen from a directory that it begins with. -/
def relativeTo? (path directory : Path) : Option Path :=
  if path.slashes = directory.slashes then
    (directory.parts.isPrefixOf? path.parts).map fun parts => { parts }
  else none

/-- The last name. -/
def name (path : Path) : Text :=
  path.parts.getLastD []

/-- The end of a name from its last point on, unless that point is its first or last
character. -/
def suffixOf (name : Text) : Text :=
  let stem := Text.dropEndWhile (· != '.') name
  let suffix := name.drop (stem.length - 1)
  if stem.length ≤ 1 ∨ suffix.length ≤ 1 then [] else suffix

/-- The suffixes of source files in small letters. -/
def sourceSuffixes : List Text := [".asm", ".s", ".inc"]

/-- The path names a source file, judged by its suffix. -/
def isSource (path : Path) : Bool :=
  sourceSuffixes.contains (Text.lower (suffixOf path.name))

end Path

end Sm83Cost
