import Sm83Cost.Config.Basic
import Sm83Cost.Fault
import Sm83Cost.Journal
import Sm83Cost.Opcode.Lookup

/-!
# Costs

A cost is a number of bytes and a number of clock cycles.  The cost of a line
says where it comes from: the opcode table, a macro, a call that switches banks,
or data.  In a document that is being counted each line also carries the running
total up to and including itself.
-/

namespace Sm83Cost

set_option autoImplicit false

/-- Bytes and clock cycles. -/
structure Cost where
  bytes : Int := 0
  cycles : Int := 0
deriving DecidableEq, Repr

namespace Cost

/-- Costs are added part by part. -/
instance : Add Cost := ⟨fun first second =>
  ⟨first.bytes + second.bytes, first.cycles + second.cycles⟩⟩

/-- Nothing costs no bytes and no cycles. -/
instance : Zero Cost := ⟨{}⟩

end Cost

/-- A macro by name, and its definition if there is one. -/
structure MacroCall where
  name : Text
  definition : Option Macro := none
deriving DecidableEq, Repr

/-- A call that switches banks, and the routine it names. -/
structure PredefCall where
  kind : PredefKind := .call
  target : Option Text := none
deriving DecidableEq, Repr

/-- The cost of a line.  It is not known for lines that cost nothing by themselves and for
unknown instructions. -/
structure LineCost where
  line : Line
  known : Bool := false
  own : Cost := {}
  counting : Bool := false
  running : Cost := {}
  opcode : Option Opcode.Entry := none
  macroCall : Option MacroCall := none
  predef : Option PredefCall := none
  isData : Bool := false
deriving DecidableEq, Repr

namespace LineCost

/-- What a line adds to a total. -/
def counted (cost : LineCost) : Cost :=
  if cost.counting && cost.known then cost.own else {}

end LineCost

/-- The total over the lines of a document that are counted. -/
def totals (costs : List LineCost) : Cost :=
  (costs.map LineCost.counted).sum

end Sm83Cost
