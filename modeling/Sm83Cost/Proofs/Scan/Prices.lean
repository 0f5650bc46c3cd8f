import Sm83Cost.Proofs.Line.Code
import Sm83Cost.Proofs.Scan.LastBlocks

/-!
# What a body takes from the macros that are known

The cost of a macro depends on the macros that are known where it ends in two
ways: they decide which of its lines are calls, and what a call costs.  Both are
told by the prices of the macros whose names stand as instructions in the body
(`Invokes`).  Other macros may be known or not, and where the macros that are
called were defined plays no part.

So two scanners that agree on the names in a body register macros with the same
price for it, or are both given up (`closeBlock_agrees`).  The bodies may stand at
different places in their documents.
-/

namespace Sm83Cost

set_option autoImplicit false

/-! ## The instruction of a line -/

/-- The line has the name as its instruction, in capitals, with some macros in view. -/
def Line.Invokes (text name : Text) : Prop :=
  ∃ isMacro number line operation, Line.parse isMacro number text = .ok line ∧
    line.operation = some operation ∧ operation.mnemonic = name

namespace Line

variable {isMacro isMacro' : Text → Bool} {text mnemonic : Text} {operands : List Text}

/-- The role of an operation depends on the macros only by whether its mnemonic is one of them. -/
theorem roleOf_congr
    (same : ∀ role, roleOf isMacro mnemonic operands = .ok role →
      isMacro mnemonic = isMacro' mnemonic) :
    roleOf isMacro mnemonic operands = roleOf isMacro' mnemonic operands := by
  by_cases data : dataDirectives.contains mnemonic
  · rw [roleOf, roleOf, if_pos data, if_pos data]
  · by_cases other : isOtherDirective mnemonic operands
    · rw [roleOf, roleOf, if_neg data, if_neg data, if_pos other, if_pos other]
    · -- Only data can fail to be read.
      have read : ∃ role, roleOf isMacro mnemonic operands = .ok role := by
        rw [roleOf, if_neg data, if_neg other]
        split
        · exact ⟨_, rfl⟩
        · split <;> exact ⟨_, rfl⟩
      obtain ⟨role, given⟩ := read
      rw [roleOf, roleOf, same role given]

/-- A line invokes the mnemonic that is read from its code. -/
theorem invokes_of_operationOf {operation : Operation}
    (read : operationOf isMacro (labelAndCode (codeOf text)).2 = .ok (some operation)) :
    Invokes text operation.mnemonic := by
  obtain ⟨line, parsed, holds⟩ :
      ∃ line, parse isMacro 0 text = .ok line ∧ line.operation = some operation :=
    ⟨_, parse_eq_ok.2 ⟨some operation, read, rfl⟩, rfl⟩
  exact ⟨isMacro, 0, line, operation, parsed, holds, rfl⟩

/-- The operation of a line is the same if what it invokes is a macro both times or never. -/
theorem operationOf_congr
    (same : ∀ name, Invokes text name → isMacro name = isMacro' name) :
    operationOf isMacro (labelAndCode (codeOf text)).2 =
      operationOf isMacro' (labelAndCode (codeOf text)).2 := by
  have invoked : ∀ operation,
      operationOf isMacro (labelAndCode (codeOf text)).2 = .ok (some operation) →
        Invokes text operation.mnemonic :=
    fun operation => invokes_of_operationOf
  generalize (labelAndCode (codeOf text)).2 = code at invoked ⊢
  by_cases empty : code.isEmpty
  · rw [operationOf, operationOf, if_pos empty, if_pos empty]
  · simp only [operationOf, if_neg empty] at invoked ⊢
    rw [roleOf_congr]
    intro role given
    rw [given] at invoked
    exact same _ (invoked _ rfl)

/-- The operation of a line depends neither on its number nor on macros that it does not invoke. -/
theorem parse_agrees (same : ∀ name, Invokes text name → isMacro name = isMacro' name)
    (number number' : Int) :
    Parallel Eq (fun line other => line.operation = other.operation ∧
        ∀ operation, line.operation = some operation → Invokes text operation.mnemonic)
      (parse isMacro number text) (parse isMacro' number' text) := by
  rw [parse_eq, parse_eq, operationOf_congr same]
  cases read : operationOf isMacro' (labelAndCode (codeOf text)).2 with
  | error cause => exact .error rfl
  | ok found =>
    refine .ok ⟨rfl, ?_⟩
    rintro operation rfl
    exact invokes_of_operationOf read

/-- A line invokes nothing but its mnemonic in capitals. -/
theorem eq_of_invokes {name : Text} (invokes : Invokes text name) :
    name = Text.upper (splitMnemonic (labelAndCode (codeOf text)).2).1 := by
  obtain ⟨isMacro, number, line, operation, parsed, holds, rfl⟩ := invokes
  obtain ⟨read, given, rfl⟩ := parse_eq_ok.1 parsed
  cases holds
  exact (operationOf_eq_some given).1

theorem upper_of_invokes {name : Text} (invokes : Invokes text name) : Text.upper name = name := by
  rw [eq_of_invokes invokes, Text.upper_upper]

end Line

/-! ## Prices -/

/-- What a macro costs. -/
def Macro.price (definition : Macro) : Int × Cycles :=
  (definition.size, definition.cycles)

/-- The price under a name after a macro is registered. -/
theorem Macro.map_price_register (macros : Registry Macro) (definition : Macro) (name : Text) :
    ((macros.register definition).get? name).map Macro.price =
      if name = Text.upper definition.name then some definition.price
      else (macros.get? name).map Macro.price := by
  show ((macros.put (Text.upper definition.name) definition).get? name).map Macro.price = _
  split
  · rename_i same
    rw [same, Store.get?_put_self, Option.map_some]
  · rename_i differs
    rw [Store.get?_put_of_ne macros differs]

/-- The scanners have the same table and the same pinned macros, and under these names, which are in
capitals, they know macros of the same price or none. -/
structure Scanner.AgreeOn (names : Text → Prop) (first second : Scanner) : Prop where
  tables : first.table = second.table
  pins : first.pinned = second.pinned
  prices : ∀ name, names name →
    (first.macros.get? name).map Macro.price = (second.macros.get? name).map Macro.price

namespace Scanner.AgreeOn

variable {names : Text → Prop} {first second : Scanner} {name : Text}

/-- Such a name is taken for a macro by both scanners or by neither. -/
theorem recognises (same : AgreeOn names first second) (named : names (Text.upper name)) :
    first.recognises name = second.recognises name := by
  have prices := same.prices (Text.upper name) named
  rw [Scanner.recognises, Scanner.recognises, same.pins]
  cases second.pinned with
  | some kept => rfl
  | none =>
    rw [Option.getD_none, Option.getD_none, Registry.defines, Registry.defines, Registry.find?,
      Registry.find?, ← Option.isSome_map, prices, Option.isSome_map]

end Scanner.AgreeOn

namespace Scan

/-! ## Bodies -/

/-- What a line adds to a body. -/
def BodyLine.price (body : BodyLine) : Int × Int × Int :=
  (body.size, body.most, body.fewest)

section Bodies

variable {names : Text → Prop} {first second : Scanner} {text : Text}

/-- One operation adds the same, if its macro has the same price. -/
theorem measureOperation_agrees (tables : first.table = second.table) {operation : Operation}
    (prices : (first.macros.find? operation.mnemonic).map Macro.price =
      (second.macros.find? operation.mnemonic).map Macro.price) (line other : Line) :
    Parallel Eq (fun body body' => BodyLine.price body = BodyLine.price body')
      (measureOperation first line operation) (measureOperation second other operation) := by
  rw [measureOperation, measureOperation]
  cases operation.role with
  | data bytes => exact .ok rfl
  | directive => exact .ok rfl
  | predef kind => exact .ok rfl
  | macroCall =>
    cases here : first.macros.find? operation.mnemonic with
    | none =>
      rw [here, Option.map_none, eq_comm, Option.map_eq_none_iff] at prices
      simp only [prices]
      exact .ok rfl
    | some nested =>
      rw [here, Option.map_some, eq_comm, Option.map_eq_some_iff] at prices
      obtain ⟨nested', there, price⟩ := prices
      obtain ⟨sizes, cycles⟩ := Prod.mk.inj price
      simp only [there, sizes, cycles]
      refine Parallel.bind (.refl (fun _ => rfl) (fun _ => rfl) _) ?_
      rintro bounds _ rfl
      exact .ok rfl
  | instruction =>
    simp only [tables]
    refine Parallel.bind (.refl (fun _ => rfl) (fun _ => rfl) _) ?_
    rintro entry _ rfl
    cases entry with
    | none => exact .ok rfl
    | some entry =>
      refine Parallel.bind (.refl (fun _ => rfl) (fun _ => rfl) _) ?_
      rintro bounds _ rfl
      exact .ok rfl

/-- One line adds the same, wherever it stands. -/
theorem measure_agrees (same : first.AgreeOn names second)
    (within : ∀ name, Line.Invokes text name → names name) (number number' : Nat) :
    Parallel Eq (fun body body' => BodyLine.price body = BodyLine.price body')
      (measure first (number, text)) (measure second (number', text)) := by
  have known : ∀ name, Line.Invokes text name →
      first.recognises name = second.recognises name := by
    intro name invokes
    apply same.recognises
    rw [Line.upper_of_invokes invokes]
    exact within name invokes
  refine Parallel.bind (Line.parse_agrees known number number').ofNumeral ?_
  rintro line other ⟨operations, invoked⟩
  rw [← operations]
  cases holds : line.operation with
  | none => exact .ok rfl
  | some operation =>
    have invokes := invoked operation holds
    apply measureOperation_agrees same.tables
    rw [Registry.find?, Registry.find?, Line.upper_of_invokes invokes]
    exact same.prices _ (within _ invokes)

/-- The same lines add the same, wherever they stand. -/
theorem measureAll_agrees (same : first.AgreeOn names second) {lines others : List (Nat × Text)}
    (texts : lines.map Prod.snd = others.map Prod.snd)
    (within : ∀ text ∈ lines.map Prod.snd, ∀ name, Line.Invokes text name → names name) :
    (measureAll first lines).1.map BodyLine.price =
        (measureAll second others).1.map BodyLine.price ∧
      (measureAll first lines).2 = (measureAll second others).2 := by
  induction lines generalizing others with
  | nil =>
    rw [List.map_nil, eq_comm, List.map_eq_nil_iff] at texts
    subst texts
    exact ⟨rfl, rfl⟩
  | cons one lines ih =>
    cases others with
    | nil => cases texts
    | cons other others =>
      obtain ⟨number, text⟩ := one
      obtain ⟨number', text'⟩ := other
      obtain ⟨rfl, further⟩ := List.cons.inj texts
      obtain ⟨here, later⟩ := List.forall_mem_cons.1 within
      have together := measure_agrees same here number number'
      rw [measureAll, measureAll]
      generalize measure first (number, text) = measured at together ⊢
      generalize measure second (number', text) = measured' at together ⊢
      cases together with
      | error causes => exact ⟨rfl, congrArg some causes⟩
      | ok added =>
        obtain ⟨others, faults⟩ := ih further later
        refine ⟨?_, faults⟩
        rw [List.map_cons, List.map_cons, added, others]

/-- The price of a macro is told by what the lines of its body add. -/
theorem price_define {block block' : Block} {body body' : List BodyLine}
    (added : body.map BodyLine.price = body'.map BodyLine.price) (endLine endLine' : Nat) :
    (block.define endLine body).price = (block'.define endLine' body').price := by
  have sizes : body.map BodyLine.size = body'.map BodyLine.size := by
    simpa [Function.comp_def, BodyLine.price] using congrArg (List.map Prod.fst) added
  have most : body.map BodyLine.most = body'.map BodyLine.most := by
    simpa [Function.comp_def, BodyLine.price] using congrArg (List.map fun cost => cost.2.1) added
  have fewest : body.map BodyLine.fewest = body'.map BodyLine.fewest := by
    simpa [Function.comp_def, BodyLine.price] using congrArg (List.map fun cost => cost.2.2) added
  simp only [Macro.price, Block.define, sizes, most, fewest]

end Bodies

/-- Two scanners have each registered a macro of this name, with the same price, and changed nothing
else. -/
def RegisterAlike (name : Text) (first second after after' : Scanner) : Prop :=
  ∃ definition definition' : Macro, definition.name = name ∧ definition'.name = name ∧
    definition.price = definition'.price ∧
      after = { first with macros := first.macros.register definition } ∧
        after' = { second with macros := second.macros.register definition' }

/-- **Scanners that agree on the names in a body define macros of the same price**, or are both
given up. -/
theorem closeBlock_agrees {names : Text → Prop} {first second : Progress}
    (same : first.scanner.AgreeOn names second.scanner) (block block' : Block)
    (named : block.name = block'.name)
    (texts : block.lines.map Prod.snd = block'.lines.map Prod.snd)
    (within : ∀ text ∈ block.lines.map Prod.snd, ∀ name, Line.Invokes text name → names name)
    (number number' : Nat) :
    Parallel (fun _ _ => True) (fun after after' =>
        RegisterAlike block.name first.scanner second.scanner after.scanner after'.scanner)
      (closeBlock block number first) (closeBlock block' number' second) := by
  obtain ⟨added, faults⟩ := measureAll_agrees same texts within
  -- The bodies have the same fault or none, so both macros are given up or both are registered.
  rcases closeBlock_cases block number first with
    ⟨fault, failed, records, result⟩ | ⟨whole, records, result⟩
  · rcases closeBlock_cases block' number' second with
      ⟨fault', failed', records', result'⟩ | ⟨whole', records', result'⟩
    · rw [result, result']
      exact .error trivial
    · rw [faults, whole'] at failed
      cases failed
  · rcases closeBlock_cases block' number' second with
      ⟨fault', failed', records', result'⟩ | ⟨whole', records', result'⟩
    · rw [← faults, whole] at failed'
      cases failed'
    · have prices : (block.define number (measureAll first.scanner block.lines).1).price =
          (block'.define number' (measureAll second.scanner block'.lines).1).price :=
        price_define added number number'
      have name : (block.define number (measureAll first.scanner block.lines).1).name =
          block.name := rfl
      have name' : (block'.define number' (measureAll second.scanner block'.lines).1).name =
          block.name := named.symm
      rw [result, result']
      generalize block.define number _ = definition at prices name ⊢
      generalize block'.define number' _ = definition' at prices name' ⊢
      obtain ⟨sizes, cycles⟩ := Prod.mk.inj prices
      simp only [sizes, cycles]
      cases writable (definition'.size :: definition'.cycles.numbers) with
      | error error => exact .error trivial
      | ok done => exact .ok ⟨definition, definition', name, name', prices, rfl, rfl⟩

end Scan

end Sm83Cost
