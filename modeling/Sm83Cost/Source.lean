import Sm83Cost.File.Tree

/-!
# Reading a source file

A file that a user names must be readable; if it is not, the error names the
file and the reason.
-/

namespace Sm83Cost

set_option autoImplicit false

/-- A place in a source.  Lines and columns count from one; a column of zero is not known. -/
structure SourceLocation where
  file : Text
  line : Int
  column : Int := 0
deriving DecidableEq, Repr

/-- A file, a line and perhaps a column, separated by colons. -/
def placeText (file line : Text) (column : Option Text) : Text :=
  file ++ ":" ++ line ++ column.elim [] (':' :: ·)

/-- The place in words. -/
def SourceLocation.text (location : SourceLocation) : Text :=
  placeText location.file (Numeral.signed location.line)
    (if location.column = 0 then none else some (Numeral.signed location.column))

/-- A source that cannot be used. -/
structure SourceError where
  message : Text
  location : Option SourceLocation := none
  hint : Option Text := none
deriving DecidableEq, Repr

/-- What is said of an error: the place before it, and the hint on a line of its own. -/
def sourceErrorText (place : Option Text) (message : Text) (hint : Option Text) : Text :=
  let before : Text := place.elim [] fun (place : Text) => place ++ ": "
  let after : Text := hint.elim [] fun (hint : Text) => "\nhint: " ++ hint
  before ++ "error: " ++ message ++ after

/-- The text of an error; an empty hint is none. -/
def SourceError.text (error : SourceError) : Text :=
  sourceErrorText (error.location.map SourceLocation.text) error.message
    (error.hint.filter (!·.isEmpty))

/-- Why a source file was not read. -/
inductive ReadFailure where
  | unreadable (error : SourceError)
  | nulByte
deriving DecidableEq, Repr

/-- The lines of a source file. -/
def FileTree.readSource (tree : FileTree) (path : Path) : Except ReadFailure (List Text) :=
  match tree.readLines path with
  | .ok lines => .ok lines
  | .error .nulByte => .error .nulByte
  | .error error =>
    .error (.unreadable {
      message := "cannot read source file: " ++ error.reason
      location := some { file := path.text, line := 0 } })

end Sm83Cost
