import Sm83Cost.File.Path
import Sm83Cost.Numeral
import Sm83Cost.Routine.Basic

/-!
# Describing a routine

What is known of a routine, over several lines: its name, what it does, what it
expects in which register, and where it is defined.
-/

namespace Sm83Cost.Routine

set_option autoImplicit false

/-- Where a routine is defined, as seen from a root if it lies below it. -/
def place (routine : Routine) (root : Option Path) : Except Numeral.Error (Option Text) :=
  match routine.file with
  | none | some [] => .ok none
  | some file => do
    let path := Path.ofText file
    let shown := (root.bind path.relativeTo?).getD path
    let line ← Numeral.write (routine.line + 1)
    return some (shown.text ++ ":" ++ line)

/-- The lines of a description, given the place of the routine. -/
def descriptionLines (routine : Routine) (place : Option Text) : List Text :=
  [routine.name]
    ++ (routine.description.filter (!·.isEmpty)).toList.map (fun (text : Text) => "  " ++ text)
    ++ (if routine.arguments.isEmpty then []
        else "  Arguments:".toList :: routine.arguments.map fun argument =>
          "    " ++ Text.upper argument.register ++ ": " ++ argument.description)
    ++ place.toList.map (fun (text : Text) => "  Defined in " ++ text)

/-- The routine in words.  Fails only on the number of its line. -/
def describe (routine : Routine) (root : Option Path) : Except Numeral.Error Text := do
  let place ← routine.place root
  return Text.joined "\n" (routine.descriptionLines place)

end Sm83Cost.Routine
