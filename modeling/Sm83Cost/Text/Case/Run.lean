import Sm83Cost.Text.Ranges

/-!
# Runs of case pairs

Letters that lie at the same distance from their other case are kept as a run:
consecutive code points, or every second one where capitals and small letters
alternate.
-/

namespace Sm83Cost.Text.Case

set_option autoImplicit false

/-- The code points from `first` to `last` in steps of `stride`, each paired with the one at
the given distance. -/
structure Run where
  first : Nat
  last : Nat
  stride : Nat
  distance : Int

/-- The code point belongs to the run. -/
def Run.covers (run : Run) (code : Nat) : Bool :=
  run.first ≤ code && code ≤ run.last && (code - run.first) % run.stride == 0

/-- The other case of a character, or the character itself when no run covers it. -/
def Run.shift (runs : List Run) (c : Char) : Char :=
  match runs.find? (·.covers c.toNat) with
  | some run => Char.ofNat (c.toNat + run.distance).toNat
  | none => c

end Sm83Cost.Text.Case
