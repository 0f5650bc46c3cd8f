import Sm83Cost.Cost.Session

/-!
# Numbers that can be written

A number is noted in decimal, and a number that is too long for that cannot be
noted.  A scan notes the cost of every macro, and an analysis the totals of its
document.  Whether that succeeds is a computed test: `Macro.canWrite` of the macro,
and `Cost.canWrite` of the totals.
-/

namespace Sm83Cost

set_option autoImplicit false

/-- The number can be written in decimal. -/
def Numeral.canWrite (number : Int) : Bool :=
  decide (number.natAbs < decimalBound)

/-- The cost of the macro can be written. -/
def Macro.canWrite (definition : Macro) : Bool :=
  (definition.size :: definition.cycles.numbers).all Numeral.canWrite

/-- Both parts of the cost can be written. -/
def Cost.canWrite (cost : Cost) : Bool :=
  [cost.bytes, cost.cycles].all Numeral.canWrite

theorem Numeral.write_eq (number : Int) :
    write number = if canWrite number then .ok (signed number) else .error .tooLongToWrite := by
  rw [write, canWrite]
  by_cases fits : number.natAbs < decimalBound
  · rw [if_pos fits, if_pos (decide_eq_true fits)]
  · rw [if_neg fits, if_neg (by simpa using fits)]

/-- Numbers can be noted if each of them can be written. -/
theorem Scan.writable_eq (numbers : List Int) :
    writable numbers =
      if numbers.all Numeral.canWrite then .ok () else .error .tooLongToWrite := by
  induction numbers with
  | nil => rfl
  | cons number rest ih =>
    have step : writable (number :: rest) =
        ((Numeral.write number >>= fun _ => pure ()) >>= fun _ => writable rest) := rfl
    rw [step, Numeral.write_eq, ih, List.all_cons]
    cases Numeral.canWrite number <;> rfl

theorem Macro.writable_eq (definition : Macro) :
    Scan.writable (definition.size :: definition.cycles.numbers) =
      if definition.canWrite then .ok () else .error .tooLongToWrite :=
  Scan.writable_eq _

theorem Cost.writable_eq (cost : Cost) :
    Scan.writable [cost.bytes, cost.cycles] =
      if cost.canWrite then .ok () else .error .tooLongToWrite :=
  Scan.writable_eq _

end Sm83Cost
