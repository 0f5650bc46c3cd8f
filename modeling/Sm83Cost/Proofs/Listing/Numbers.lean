import Sm83Cost.Listing
import Sm83Cost.Proofs.Cost.Completion
import Sm83Cost.Proofs.Traversal

/-!
# Numbers in a listing

A listing shows the cost of each line in decimal, and numbers may be too long for that.  Which
numbers a line shows is a matter of the configuration and of what the line is (`remarkNumbers`,
`detailNumbers`).  The remark on a line, and its details, can be made exactly if these numbers can
be written (`shownLine_writes`); nothing else about a line whose cycles are listed can go wrong.

What can be made exactly if numbers can be written is put together step by step (`Writes.bind`,
`Writes.mapM`).
-/

namespace Sm83Cost

set_option autoImplicit false

/-- The computation succeeds if all of the numbers can be written, and fails for the given cause
if one of them cannot. -/
inductive Writes {ε α : Type} (cause : ε) (numbers : List Int) : Except ε α → Prop where
  | ok (value : α) (fit : ∀ number ∈ numbers, Numeral.canWrite number = true) :
      Writes cause numbers (.ok value)
  | error (long : ∃ number ∈ numbers, Numeral.canWrite number = false) :
      Writes cause numbers (.error cause)

namespace Writes

variable {ε α β : Type} {cause : ε} {numbers others : List Int} {result : Except ε α}

/-- A value that is known from the start writes nothing. -/
theorem pure (value : α) : Writes cause [] (.ok value) :=
  .ok value (by simp)

/-- One step writes its numbers, and the next one others. -/
theorem bind (writes : Writes cause numbers result) {next : α → Except ε β}
    (follow : ∀ value, result = .ok value → Writes cause others (next value)) :
    Writes cause (numbers ++ others) (result >>= next) := by
  cases writes with
  | error long =>
    obtain ⟨number, member, wide⟩ := long
    exact .error ⟨number, List.mem_append_left _ member, wide⟩
  | ok value fit =>
    have behind := follow value rfl
    show Writes cause (numbers ++ others) (next value)
    cases found : next value with
    | ok other =>
      rw [found] at behind
      cases behind with
      | ok _ fit' =>
        refine .ok other fun number member => ?_
        rcases List.mem_append.1 member with here | there
        · exact fit number here
        · exact fit' number there
    | error reason =>
      rw [found] at behind
      cases behind with
      | error long =>
        obtain ⟨number, member, wide⟩ := long
        exact .error ⟨number, List.mem_append_right _ member, wide⟩

/-- What is made of the result writes nothing more. -/
theorem map (writes : Writes cause numbers result) (next : α → β) :
    Writes cause numbers (next <$> result) := by
  cases writes with
  | ok value fit => exact .ok (next value) fit
  | error long => exact .error long

/-- The same for what is made of the result in a last step. -/
theorem andThen (writes : Writes cause numbers result) (next : α → β) :
    Writes cause numbers (result >>= fun value => Pure.pure (next value)) := by
  cases writes with
  | ok value fit => exact .ok (next value) fit
  | error long => exact .error long

/-- A computation that is carried out on each element in turn writes the numbers of all. -/
theorem mapM {items : List α} {step : α → Except ε β} {shown : α → List Int}
    (each : ∀ item ∈ items, Writes cause (shown item) (step item)) :
    Writes cause (items.flatMap shown) (items.mapM step) := by
  induction items with
  | nil => exact .pure _
  | cons item rest ih =>
    rw [List.flatMap_cons, List.mapM_cons]
    apply bind (each item List.mem_cons_self)
    intro value _
    have behind := ih fun other member => each other (List.mem_cons_of_mem item member)
    exact behind.andThen (value :: ·)

theorem ofNumeral {result : Except Numeral.Error α}
    (writes : Writes .tooLongToWrite numbers result) :
    Writes (.numeral .tooLongToWrite) numbers (Fault.ofNumeral result) := by
  cases writes with
  | ok value fit => exact .ok value fit
  | error long => exact .error long

end Writes

namespace Listing

/-! ## Remarks -/

/-- The numbers of a quantity and its running total. -/
def quantityNumbers (withTotal : Bool) (own total : Int) : List Int :=
  if withTotal then [own, total] else [own]

/-- The numbers in the remark on a line. -/
def remarkNumbers (config : Config) (cost : LineCost) : List Int :=
  let withTotal := config.showCumulative && cost.counting
  if cost.known then
    (if config.showByteCount then quantityNumbers withTotal cost.own.bytes cost.running.bytes
      else []) ++
    (if config.showCycleCount && decide (0 < cost.own.cycles) then
      quantityNumbers withTotal cost.own.cycles cost.running.cycles
      else [])
  else []

/-- Unless it is told otherwise, a remark shows how many bytes a line has. -/
theorem bytes_mem_remarkNumbers {cost : LineCost} (known : cost.known = true) :
    cost.own.bytes ∈ remarkNumbers {} cost := by
  rw [remarkNumbers, if_pos known]
  refine List.mem_append_left _ ?_
  show _ ∈ quantityNumbers _ cost.own.bytes _
  rw [quantityNumbers]
  split <;> exact List.mem_cons_self

theorem withUnit_writes (unit : Char) (number : Int) :
    Writes .tooLongToWrite [number] (withUnit unit number) := by
  rw [withUnit, Numeral.write_eq]
  cases fits : Numeral.canWrite number with
  | true => exact .ok _ (by simpa using fits)
  | false => exact .error ⟨number, List.mem_singleton_self number, fits⟩

theorem quantity_writes (unit : Char) (withTotal : Bool) (own total : Int) :
    Writes .tooLongToWrite (quantityNumbers withTotal own total)
      (quantity unit withTotal own total) := by
  rw [quantity, quantityNumbers]
  cases withTotal with
  | false =>
    exact (withUnit_writes unit own).andThen fun first => [first]
  | true =>
    show Writes _ ([own] ++ [total]) _
    apply Writes.bind (withUnit_writes unit own)
    intro first _
    exact (withUnit_writes unit total).andThen fun second => [first, second]

/-- The parts of a remark are made one after the other. -/
theorem parts_eq (config : Config) (cost : LineCost) :
    parts config cost =
      (if config.showByteCount then
        quantity 'B' (config.showCumulative && cost.counting) cost.own.bytes cost.running.bytes
      else .ok []) >>= fun bytes =>
      (if config.showCycleCount && decide (0 < cost.own.cycles) then
        quantity 'c' (config.showCumulative && cost.counting) cost.own.cycles cost.running.cycles
      else .ok []) >>= fun cycles =>
      pure (bytes ++ cycles ++ tags cost) := by
  rw [parts]
  cases config.showByteCount <;>
    cases config.showCycleCount && decide (0 < cost.own.cycles) <;> rfl

theorem parts_writes {config : Config} {cost : LineCost} (known : cost.known = true) :
    Writes .tooLongToWrite (remarkNumbers config cost) (parts config cost) := by
  rw [parts_eq, remarkNumbers, known, if_pos rfl]
  apply Writes.bind
  · cases config.showByteCount with
    | false => exact .pure _
    | true => exact quantity_writes _ _ _ _
  · intro bytes _
    apply Writes.andThen
    cases config.showCycleCount && decide (0 < cost.own.cycles) with
    | false => exact .pure _
    | true => exact quantity_writes _ _ _ _

/-- The remark on a line can be made exactly if its numbers can be written. -/
theorem remark_writes (config : Config) (cost : LineCost) :
    Writes .tooLongToWrite (remarkNumbers config cost) (remark config cost) := by
  rw [remark]
  cases known : cost.known with
  | false =>
    rw [remarkNumbers, known]
    exact .pure _
  | true => exact (parts_writes known).andThen _

/-! ## Details -/

/-- The numbers in the details of a line. -/
def detailNumbers (cost : LineCost) : List Int :=
  match cost.opcode, cost.macroCall.bind MacroCall.definition, cost.predef with
  | some entry, _, _ => entry.cycles.numbers.take 2
  | none, some definition, _ => definition.cycles.numbers.take 2 ++ [definition.size]
  | none, none, some _ => [cost.own.bytes, cost.own.cycles]
  | none, none, none => []

/-- What the line costs, if it is an instruction or a macro, is listed in cycles. -/
structure ListsCycles (cost : LineCost) : Prop where
  opcode : ∀ entry ∈ cost.opcode, entry.cycles.numbers ≠ []
  definition : ∀ definition ∈ cost.macroCall.bind MacroCall.definition,
    definition.cycles.numbers ≠ []

theorem cyclesInWords_writes {cycles : Cycles} (listed : cycles.numbers ≠ []) (high low : Text) :
    Writes (.numeral .tooLongToWrite) (cycles.numbers.take 2) (cyclesInWords cycles high low) := by
  obtain ⟨numbers⟩ := cycles
  match numbers, listed with
  | [only], _ => exact (withUnit_writes 'c' only).ofNumeral
  | first :: second :: _, _ =>
    apply Writes.ofNumeral
    show Writes _ ([first] ++ [second]) _
    apply Writes.bind (withUnit_writes 'c' first)
    intro most _
    exact (withUnit_writes 'c' second).andThen fun other =>
      most ++ " " ++ high ++ " / " ++ other ++ " " ++ low

/-- The details of a line can be made exactly if their numbers can be written. -/
theorem details_writes {cost : LineCost} (lists : ListsCycles cost) :
    Writes (.numeral .tooLongToWrite) (detailNumbers cost) (details? cost) := by
  rw [detailNumbers, details?]
  cases opcode : cost.opcode with
  | some entry =>
    apply Writes.map
    exact (cyclesInWords_writes (lists.opcode entry opcode) _ _).andThen _
  | none =>
    cases definition : cost.macroCall.bind MacroCall.definition with
    | some definition' =>
      apply Writes.map
      apply Writes.bind (cyclesInWords_writes (lists.definition definition' definition) _ _)
      intro cycles _
      exact (withUnit_writes 'B' definition'.size).ofNumeral.andThen _
    | none =>
      cases cost.predef with
      | some call =>
        apply Writes.map
        apply Writes.ofNumeral
        show Writes _ ([cost.own.bytes] ++ [cost.own.cycles]) _
        apply Writes.bind (withUnit_writes 'B' cost.own.bytes)
        intro size _
        exact (withUnit_writes 'c' cost.own.cycles).andThen _
      | none => exact .pure none

/-! ## What is shown for a line -/

/-- The numbers that a listing shows for a line. -/
def shownNumbers (config : Config) (withDetails : Bool) (cost : LineCost) : List Int :=
  remarkNumbers config cost ++ if withDetails then detailNumbers cost else []

/-- What is shown for a line fails only on its numbers. -/
theorem shownLine_writes (config : Config) (withDetails : Bool) (width : Nat) (text : Text)
    {cost : LineCost} (lists : ListsCycles cost) :
    Writes (.numeral .tooLongToWrite) (shownNumbers config withDetails cost)
      (shownLine config withDetails width text cost) := by
  rw [shownLine, shownNumbers]
  apply Writes.bind (remark_writes config cost).ofNumeral
  intro remark _
  cases withDetails with
  | false => exact .pure _
  | true =>
    rw [if_pos rfl, ← List.append_nil (detailNumbers cost)]
    apply Writes.bind (details_writes lists)
    intro details _
    cases details with
    | none => exact .pure _
    | some details => exact .pure _

end Listing

end Sm83Cost
