import Sm83Cost.Macro
import Sm83Cost.Opcode.Lookup
import Sm83Cost.Proofs.Parallel
import Sm83Cost.Scan.Landmark

/-!
# Views of lines

A view looks at the texts of a line in a coarser way: at its label and operands,
at the line as written, and at its comment.  Everything else about a line, its
number, its mnemonic and its role, is seen as it is.  Macros are seen through a
view by the lines of their bodies.

A view is indifferent to a relation between texts when two related lines are
taken apart alike, as far as the view can see, and mean the same to a scan
(`View.Indifferent`).  What a line outside of macros means to a scan that looks
for no included files is its cue: it begins a macro, it cannot be taken apart,
or it leaves the macros alone.
-/

namespace Sm83Cost

set_option autoImplicit false

/-- A way of looking at the texts of lines. -/
structure View where
  /-- What is seen of a label or an operand. -/
  spelling : Text → Text
  /-- What is seen of a line as written. -/
  source : Text → Text
  /-- What is seen of a comment. -/
  comment : Option Text → Option Text

/-- The view that sees everything. -/
def View.whole : View := ⟨id, id, id⟩

/-! ## What is seen -/

/-- An operation through a view. -/
def Operation.seen (view : View) (operation : Operation) : Operation :=
  { operation with operands := operation.operands.map view.spelling }

/-- A line through a view. -/
def Line.seen (view : View) (line : Line) : Line :=
  { line with
      raw := view.source line.raw
      label := line.label.map view.spelling
      operation := line.operation.map (Operation.seen view)
      comment := view.comment line.comment }

/-- A macro through a view. -/
def Macro.seen (view : View) (definition : Macro) : Macro :=
  { definition with body := definition.body.map (Line.seen view) }

@[simp]
theorem Operation.seen_whole (operation : Operation) : operation.seen .whole = operation := by
  simp [Operation.seen, View.whole]

@[simp]
theorem Line.seen_whole : Line.seen .whole = id := by
  funext line
  have same : Operation.seen .whole = id := funext Operation.seen_whole
  rw [Line.seen, same, Option.map_id]
  simp [View.whole]

@[simp]
theorem Macro.seen_whole : Macro.seen .whole = id := by
  funext definition
  simp [Macro.seen]

/-- Whether a line has an operation is seen. -/
theorem Line.isSome_operation_seen (view : View) (line : Line) :
    (line.seen view).operation.isSome = line.operation.isSome := by
  simp [Line.seen]

/-- Two lines that look alike have no operation, or operations that look alike. -/
theorem Line.operation_of_seen_eq {view : View} {line other : Line}
    (alike : line.seen view = other.seen view) :
    line.operation = none ∧ other.operation = none ∨
      ∃ operation operation', line.operation = some operation ∧
        other.operation = some operation' ∧ operation.seen view = operation'.seen view := by
  have operations : line.operation.map (Operation.seen view) =
      other.operation.map (Operation.seen view) := congrArg Line.operation alike
  cases here : line.operation with
  | none =>
    rw [here, Option.map_none, eq_comm, Option.map_eq_none_iff] at operations
    exact .inl ⟨rfl, operations⟩
  | some operation =>
    rw [here, Option.map_some, eq_comm, Option.map_eq_some_iff] at operations
    obtain ⟨operation', there, same⟩ := operations
    exact .inr ⟨operation, operation', rfl, there, same.symm⟩

/-- Operations that look alike have the same mnemonic and role, and operands that look alike. -/
theorem Operation.seen_eq_iff {view : View} {operation other : Operation} :
    operation.seen view = other.seen view ↔
      operation.mnemonic = other.mnemonic ∧
        operation.operands.map view.spelling = other.operands.map view.spelling ∧
        operation.role = other.role := by
  rw [Operation.seen, Operation.seen, Operation.mk.injEq]

/-- Macros that look alike have the same name and the same cost. -/
theorem Macro.eq_of_seen_eq {view : View} {definition other : Macro}
    (alike : definition.seen view = other.seen view) :
    definition.name = other.name ∧ definition.size = other.size ∧
      definition.cycles = other.cycles := by
  rw [Macro.seen, Macro.seen, Macro.mk.injEq] at alike
  obtain ⟨names, -, -, sizes, cycles, -⟩ := alike
  exact ⟨names, sizes, cycles⟩

/-! ## What a line means to a scan -/

namespace Scan

/-- What a line outside of macros means to a scan that looks for no included files. -/
inductive Cue where
  /-- A macro of this name begins. -/
  | header (name : Text)
  /-- The line cannot be taken apart. -/
  | fails (error : Numeral.Error)
  /-- Nothing happens to macros. -/
  | quiet

/-- The cue of a line.  Lines with a landmark are not taken apart. -/
def cue (isMacro : Text → Bool) (number : Int) (text : Text) : Cue :=
  match landmark? (Text.trim text) with
  | some (.header name) => .header (Text.upper name)
  | none =>
    match Line.parse isMacro number text with
    | .error error => .fails error
    | .ok _ => .quiet
  | _ => .quiet

end Scan

/-- Lines that are alike look alike when they are taken apart, mean the same to a scan inside of
macros and outside of them, and operands that look alike lead to the same entry of a table. -/
structure View.Indifferent (view : View) (alike : Text → Text → Prop) : Prop where
  parse {first second : Text} (same : alike first second) (isMacro : Text → Bool) (number : Int) :
    Parallel Eq (fun line other => line.seen view = other.seen view)
      (Line.parse isMacro number first) (Line.parse isMacro number second)
  cue {first second : Text} (same : alike first second) (isMacro : Text → Bool) (number : Int) :
    Scan.cue isMacro number first = Scan.cue isMacro number second
  isMacroEnd {first second : Text} (same : alike first second) :
    Scan.isMacroEnd (Text.trim first) = Scan.isMacroEnd (Text.trim second)
  lookup {operands others : List Text}
    (spelled : operands.map view.spelling = others.map view.spelling) (table : Opcode.Table)
    (mnemonic : Text) : table.lookup mnemonic operands = table.lookup mnemonic others

/-- Nothing is hidden from the whole view, and only a line itself is alike to it. -/
theorem View.indifferent_whole : View.whole.Indifferent Eq where
  parse same isMacro number := by
    subst same
    refine .refl ?_ ?_ _ <;> intro _ <;> rfl
  cue same _ _ := same ▸ rfl
  isMacroEnd same := same ▸ rfl
  lookup spelled _ _ := by
    simp only [View.whole, List.map_id] at spelled
    rw [spelled]

end Sm83Cost
