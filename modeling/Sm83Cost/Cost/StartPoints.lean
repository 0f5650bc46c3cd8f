import Sm83Cost.Store

/-!
# Start points

A document may have a line from which its cost is counted.  Without one it is
counted from the top.  Documents are told apart by their paths as given, and all
those without a path are one.
-/

namespace Sm83Cost

set_option autoImplicit false

/-- The key of a document. -/
def documentKey (file : Option Text) : Text :=
  file.getD "<untitled>"

/-- The line from which each document is counted. -/
abbrev StartPoints := Store Int

namespace StartPoints

/-- The start point of a document. -/
def startOf? (points : StartPoints) (file : Option Text) : Option Int :=
  points.get? (documentKey file)

/-- The document has a start point. -/
def has (points : StartPoints) (file : Option Text) : Bool :=
  points.contains (documentKey file)

/-- Gives a document a start point. -/
def set (points : StartPoints) (file : Option Text) (line : Int) : StartPoints :=
  points.put (documentKey file) line

/-- Takes the start point of a document away. -/
def clear (points : StartPoints) (file : Option Text) : StartPoints :=
  points.erase (documentKey file)

/-- Takes a start point away if it is on the line, and puts it there otherwise.  Tells where it
is then. -/
def toggle (points : StartPoints) (file : Option Text) (line : Int) :
    StartPoints × Option Int :=
  if points.startOf? file = some line then (points.clear file, none)
  else (points.set file line, some line)

end StartPoints

end Sm83Cost
