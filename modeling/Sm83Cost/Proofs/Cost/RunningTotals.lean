import Mathlib.Algebra.BigOperators.Group.List.Basic
import Sm83Cost.Proofs.Cost.Visits
import Sm83Cost.Proofs.Line.Parse

/-!
# Running totals

An analysis gives every line of a document its own cost, tells whether the line
is counted, and carries a running total along.  The three are computed in one
pass; here each of them is described by itself.

Counting changes nothing but the two fields it is about (`map_uncounted_tally`).
A line is counted exactly when the start point has been reached, which is a
matter of the line's number alone (`counting_of_tally`).  On a counted line the
running total is the sum of what the lines up to it add (`running_of_tally`), and
so the total over the document, which is summed separately, is the running total
of its last line (`totals_eq_running`).
-/

namespace Sm83Cost

set_option autoImplicit false

namespace Cost

@[ext]
theorem ext {first second : Cost} (bytes : first.bytes = second.bytes)
    (cycles : first.cycles = second.cycles) : first = second := by
  cases first
  cases second
  simp_all

@[simp]
theorem bytes_add (first second : Cost) : (first + second).bytes = first.bytes + second.bytes := rfl

@[simp]
theorem cycles_add (first second : Cost) :
    (first + second).cycles = first.cycles + second.cycles := rfl

@[simp]
theorem bytes_zero : (0 : Cost).bytes = 0 := rfl

@[simp]
theorem cycles_zero : (0 : Cost).cycles = 0 := rfl

/-- Costs are added in any order. -/
instance : AddCommMonoid Cost where
  add_assoc first second third := by ext <;> simp [add_assoc]
  zero_add cost := by ext <;> simp
  add_zero cost := by ext <;> simp
  add_comm first second := by ext <;> simp [add_comm]
  nsmul := nsmulRec

end Cost

namespace LineCost

theorem counting_eq_false {cost : LineCost} (fresh : cost.uncounted = cost) :
    cost.counting = false := by
  rw [← fresh]
  rfl

theorem counted_eq (cost : LineCost) :
    cost.counted = if cost.counting && cost.known then cost.own else 0 := rfl

/-- The sum of what lines add is the sum over those that are counted and have a known cost. -/
theorem sum_counted (costs : List LineCost) :
    (costs.map counted).sum =
      ((costs.filter fun cost => cost.counting && cost.known).map own).sum := by
  induction costs with
  | nil => rfl
  | cons cost rest ih =>
    rw [List.map_cons, List.sum_cons, ih, counted_eq, List.filter_cons]
    split
    · rw [List.map_cons, List.sum_cons]
    · rw [zero_add]

end LineCost

/-! ## What one line has -/

namespace Session

/-- The cost of a line has that line and is not yet part of a count. -/
theorem uncounted_of_resolve {session : Session} {line : Line} {cost : LineCost}
    (resolved : session.resolve line = .ok cost) :
    cost.line = line ∧ cost.uncounted = cost := by
  rw [resolve] at resolved
  cases found : line.operation with
  | none =>
    rw [found] at resolved
    cases resolved
    exact ⟨rfl, rfl⟩
  | some operation =>
    simp only [found, costOf] at resolved
    split at resolved
    · cases resolved
      exact ⟨rfl, rfl⟩
    · cases resolved
      exact ⟨rfl, rfl⟩
    · cases resolved
      exact ⟨rfl, rfl⟩
    · split at resolved
      · cases resolved
        exact ⟨rfl, rfl⟩
      · obtain ⟨cycles, -, made⟩ := Fault.bind_eq_ok.1 resolved
        cases made
        exact ⟨rfl, rfl⟩
    · obtain ⟨entry, -, made⟩ := Fault.bind_eq_ok.1 resolved
      cases entry with
      | none =>
        cases made
        exact ⟨rfl, rfl⟩
      | some entry =>
        obtain ⟨cycles, -, made⟩ := Fault.bind_eq_ok.1 made
        cases made
        exact ⟨rfl, rfl⟩

/-- The cost that a visit finds has the line as it was taken apart, and is not yet part of a
count.  Outside of definitions it is the cost of the line by itself. -/
theorem cost_of_visitLine {session : Session} {inside after : Bool} {number : Nat} {text : Text}
    {visit : Visit} (visited : session.visitLine inside number text = .ok (visit, after)) :
    ∃ line, session.scanner.parseLine text number = .ok line ∧ visit.cost.line = line ∧
      visit.cost.uncounted = visit.cost ∧
      if inside || holds "MACRO" line then visit.cost = { line }
      else session.lineCost text number = .ok visit.cost := by
  obtain ⟨line, parsed, -, shape⟩ := visitLine_eq_ok visited
  refine ⟨line, parsed, ?_⟩
  cases part : inside || holds "MACRO" line with
  | true =>
    simp only [part, if_true] at shape ⊢
    subst shape
    exact ⟨rfl, rfl, rfl⟩
  | false =>
    simp only [part, Bool.false_eq_true, if_false] at shape ⊢
    obtain ⟨cost, resolved, rfl⟩ := shape
    obtain ⟨kept, fresh⟩ := uncounted_of_resolve resolved
    refine ⟨kept, fresh, ?_⟩
    rw [lineCost, Fault.bind_eq_ok]
    exact ⟨line, Fault.ofNumeral_eq_ok.2 parsed, resolved⟩

/-! ## Counting -/

/-- Counting has begun before the line with this number: there is no start point, or there is
one on an earlier line. -/
def BegunBefore (start : Option Int) (number : Nat) : Prop :=
  start = none ∨ ∃ point, start = some point ∧ 0 ≤ point ∧ point < number

/-- Counting goes on, or begins at the start point. -/
theorem begunBefore_succ {start : Option Int} {number : Nat} :
    BegunBefore start (number + 1) ↔ BegunBefore start number ∨ start = some (number : Int) := by
  cases start with
  | none => simp [BegunBefore]
  | some point =>
    simp only [BegunBefore, reduceCtorEq, Option.some.injEq, exists_eq_left', false_or]
    omega

theorem begunBefore_zero {start : Option Int} : BegunBefore start 0 ↔ start = none := by
  cases start with
  | none => simp [BegunBefore]
  | some point =>
    simp only [BegunBefore, reduceCtorEq, Option.some.injEq, exists_eq_left', false_or, iff_false]
    omega

/-- At the top, counting has begun only without a start point. -/
theorem isNone_iff_begunBefore (start : Option Int) :
    start.isNone = true ↔ BegunBefore start 0 := by
  rw [begunBefore_zero, Option.isNone_iff_eq_none]

/-- Counting never stops. -/
theorem BegunBefore.mono {start : Option Int} {number later : Nat}
    (begun : BegunBefore start number) (order : number ≤ later) : BegunBefore start later := by
  rcases begun with none | ⟨point, found, positive, early⟩
  · exact .inl none
  · exact .inr ⟨point, found, positive, by omega⟩

/-- The flag that is carried along tells whether counting has begun, on the next line too. -/
theorem carried_begunBefore {start : Option Int} {number : Nat} {counting : Bool}
    (carried : counting = true ↔ BegunBefore start number) :
    (counting || start == some (number : Int)) = true ↔ BegunBefore start (number + 1) := by
  rw [Bool.or_eq_true, carried, beq_iff_eq, begunBefore_succ]

/-- Counting leaves everything else about a line alone. -/
theorem map_uncounted_tally (start : Option Int) (number : Nat) (counting : Bool) (total : Cost)
    (costs : List LineCost) :
    (tally start number counting total costs).map LineCost.uncounted =
      costs.map LineCost.uncounted := by
  induction costs generalizing number counting total with
  | nil => rfl
  | cons cost rest ih =>
    rw [tally]
    split
    · rw [List.map_cons, List.map_cons, ih]
      rfl
    · rw [List.map_cons, List.map_cons, ih]

/-- A line is counted when counting has begun on it or before it. -/
theorem counting_of_tally {start : Option Int} {number : Nat} {counting : Bool} {total : Cost}
    {costs : List LineCost} (carried : counting = true ↔ BegunBefore start number)
    (fresh : ∀ cost ∈ costs, cost.counting = false) {index : Nat} {cost : LineCost}
    (found : (tally start number counting total costs)[index]? = some cost) :
    cost.counting = true ↔ BegunBefore start (number + index + 1) := by
  induction costs generalizing number counting total index with
  | nil => simp [tally] at found
  | cons first rest ih =>
    have next := carried_begunBefore carried
    have later := fun other member => fresh other (List.mem_cons_of_mem first member)
    rw [tally] at found
    split at found
    · rename_i begun
      cases index with
      | zero =>
        cases found
        simpa using next.1 begun
      | succ index =>
        have step := ih (iff_of_true rfl (next.1 begun)) later found
        rwa [Nat.add_right_comm number 1, Nat.add_assoc number] at step
    · rename_i waiting
      cases index with
      | zero =>
        obtain rfl : first = cost := by simpa using found
        rw [fresh first List.mem_cons_self, Nat.add_zero, ← next]
        simpa using waiting
      | succ index =>
        have notBegun : false = true ↔ BegunBefore start (number + 1) :=
          iff_of_false Bool.false_ne_true fun begun => waiting (next.2 begun)
        have step := ih notBegun later found
        rwa [Nat.add_right_comm number 1, Nat.add_assoc number] at step

/-- On a counted line the running total is what it was before, with all that the lines up to it
add.  On any other line there is none. -/
theorem running_of_tally {start : Option Int} {number : Nat} {counting : Bool} {total : Cost}
    {costs : List LineCost} (fresh : ∀ cost ∈ costs, cost.uncounted = cost) {index : Nat}
    {cost : LineCost} (found : (tally start number counting total costs)[index]? = some cost) :
    cost.running =
      if cost.counting then
        total + (((tally start number counting total costs).take (index + 1)).map
          LineCost.counted).sum
      else 0 := by
  induction costs generalizing number counting total index with
  | nil => simp [tally] at found
  | cons first rest ih =>
    have later := fun other member => fresh other (List.mem_cons_of_mem first member)
    rw [tally] at found ⊢
    split at found
    · rename_i begun
      simp only [begun, if_true]
      -- The head adds its own cost, if it is known, so the carried total is the sum so far.
      have carried : (if first.known then total + first.own else total) =
          total + LineCost.counted { first with
            counting := true
            running := if first.known then total + first.own else total } := by
        rw [LineCost.counted_eq]
        cases first.known <;> simp
      cases index with
      | zero =>
        cases found
        simpa using carried
      | succ index =>
        rw [ih later found, List.take_succ_cons, List.map_cons, List.sum_cons, ← add_assoc,
          ← carried]
    · rename_i waiting
      simp only [waiting, Bool.false_eq_true, if_false]
      have asleep : first.uncounted = first := fresh first List.mem_cons_self
      cases index with
      | zero =>
        obtain rfl : first = cost := by simpa using found
        rw [← asleep]
        rfl
      | succ index =>
        have nothing : first.counted = 0 := by
          rw [← asleep]
          rfl
        rw [ih later found, List.take_succ_cons, List.map_cons, List.sum_cons, nothing, zero_add]

/-- The total over a document is the running total of its last line. -/
theorem totals_eq_running {start : Option Int} {costs : List LineCost}
    (fresh : ∀ cost ∈ costs, cost.uncounted = cost) :
    totals (tally start 0 start.isNone 0 costs) =
      ((tally start 0 start.isNone 0 costs).getLast?.map LineCost.running).getD 0 := by
  have carried := isNone_iff_begunBefore start
  have still := fun cost member => LineCost.counting_eq_false (fresh cost member)
  generalize counts : tally start 0 start.isNone 0 costs = result
  cases last : result.getLast? with
  | none =>
    rw [List.getLast?_eq_none_iff.1 last]
    rfl
  | some cost =>
    have found : result[result.length - 1]? = some cost := by
      rw [← List.getLast?_eq_getElem?, last]
    have whole : result.take (result.length - 1 + 1) = result := by
      rw [List.take_of_length_le (by omega)]
    subst counts
    rw [Option.map_some, Option.getD_some, running_of_tally fresh found, whole, zero_add]
    split
    · rfl
    · rename_i waiting
      -- Where the last line is not counted, no line is, since counting never stops.
      refine List.sum_eq_zero fun amount member => ?_
      obtain ⟨other, listed, rfl⟩ := List.mem_map.1 member
      obtain ⟨index, bound, there⟩ := List.getElem_of_mem listed
      have other := counting_of_tally carried still (List.getElem?_eq_some_iff.2 ⟨bound, there⟩)
      rw [counting_of_tally carried still found] at waiting
      rw [LineCost.counted_eq, if_neg]
      intro adds
      rw [Bool.and_eq_true, other] at adds
      exact waiting (adds.1.mono (by omega))

/-! ## Analysis -/

/-- What the visits of a document find on each line: the line under its number, with no cost in a
macro definition and with its own cost elsewhere. -/
theorem cost_of_visitLines {session : Session} {lines : List Text}
    (complete : (session.visitLines false 0 lines).2 = none) {index : Nat} {text : Text}
    (present : lines[index]? = some text) {cost : LineCost}
    (found : ((session.visitLines false 0 lines).1.map Visit.cost)[index]? = some cost) :
    cost.line.number = index ∧ cost.uncounted = cost ∧
      (session.InDefinition lines index → cost = { line := cost.line }) ∧
      (¬ session.InDefinition lines index → session.lineCost text index = .ok cost) := by
  obtain ⟨inside, outside, steps⟩ := exists_trace session false 0 lines complete
  simp only [Nat.zero_add] at steps
  obtain ⟨visit, there, step⟩ := steps index text present
  obtain rfl : visit.cost = cost := by simpa [there] using found
  obtain ⟨line, parsed, rfl, fresh, shape⟩ := cost_of_visitLine step
  refine ⟨Line.number_of_parse parsed, fresh, ?_⟩
  have within := trace_inside_iff outside
    (fun other words listed => (steps other words listed).imp fun _ both => both.2)
    (List.getElem?_eq_some_iff.1 present).1
  rw [holdsAt_iff present parsed, ← Bool.or_eq_true] at within
  rw [← within]
  constructor
  · intro part
    rwa [if_pos part] at shape
  · intro part
    rwa [if_neg part] at shape

/-- What it takes to count lines: all of them are visited, and the result is the count of what
they cost.  Only the kept results of the session change. -/
theorem countLines_eq_ok {session : Session} {lines : List Text} {file : Option Text}
    {costs : List LineCost} (counted : (session.countLines lines file).result = .ok costs) :
    (session.visitLines false 0 lines).2 = none ∧
      costs = tally (session.startPoints.startOf? file) 0
        (session.startPoints.startOf? file).isNone 0
        ((session.visitLines false 0 lines).1.map Visit.cost) ∧
      (session.countLines lines file).session =
        { session with results := session.results.put (documentKey file) costs } := by
  rw [countLines] at counted ⊢
  cases visited : session.visitLines false 0 lines with
  | mk visits stopped =>
    cases stopped with
    | some fault => simp [visited] at counted
    | none =>
      simp only [visited] at counted ⊢
      split at counted
      · cases counted
      · cases counted
        exact ⟨trivial, rfl, rfl⟩

/-- An analysis counts the lines in the state that its scan leaves, which has the same start
points. -/
theorem analyse_eq_ok {session : Session} {tree : FileTree} {lines : List Text}
    {file : Option Text} {directory : Option Path} {rescan : Bool} {costs : List LineCost}
    (returned : (session.analyse tree lines file directory rescan).result = .ok costs) :
    ∃ scanned : Session, scanned.startPoints = session.startPoints ∧
      (scanned.countLines lines file).result = .ok costs ∧
      (session.analyse tree lines file directory rescan).session =
        (scanned.countLines lines file).session := by
  cases rescan with
  | false => exact ⟨session, rfl, returned, rfl⟩
  | true =>
    refine ⟨(session.scan tree lines directory file).session, ?_, ?_⟩
    · rw [scan]
      split <;> rfl
    · rw [analyse, if_pos rfl] at returned ⊢
      cases found : (session.scan tree lines directory file).result with
      | error fault => simp [found] at returned
      | ok _ =>
        simp only [found] at returned ⊢
        exact ⟨returned, trivial⟩

/-- **An analysis that returns accounts for every line.**  There is one cost for each line, in
order.  A line is counted exactly when there is no start point, or one that is not negative on
this line or above; its running total is then the sum over the counted lines up to it whose cost
is known, and otherwise nothing.  Apart from counting, a line of a macro definition has no cost
where it stands, and any other line has the cost that it has by itself in the state after the
analysis.  The total over the document is the running total of its last line. -/
theorem analyse_accounts (session : Session) (tree : FileTree) (lines : List Text)
    (file : Option Text) (directory : Option Path) (rescan : Bool) {costs : List LineCost}
    (returned : (session.analyse tree lines file directory rescan).result = .ok costs) :
    let after := (session.analyse tree lines file directory rescan).session
    let start := session.startPoints.startOf? file
    costs.length = lines.length ∧
      (∀ (index : Nat) (text : Text) (cost : LineCost), lines[index]? = some text →
        costs[index]? = some cost →
        cost.line.number = index ∧
        (cost.counting = true ↔
          start = none ∨ ∃ point, start = some point ∧ 0 ≤ point ∧ point ≤ index) ∧
        cost.running =
          (if cost.counting then
            (((costs.take (index + 1)).filter fun other => other.counting && other.known).map
              LineCost.own).sum
          else 0) ∧
        (after.InDefinition lines index → cost.uncounted = { line := cost.line }) ∧
        (¬ after.InDefinition lines index →
          after.lineCost text index = .ok cost.uncounted)) ∧
      totals costs = (costs.getLast?.map LineCost.running).getD 0 := by
  obtain ⟨scanned, points, counted, final⟩ := analyse_eq_ok returned
  obtain ⟨complete, made, kept⟩ := countLines_eq_ok counted
  intro after start
  have sameStart : scanned.startPoints.startOf? file = start := by rw [points]
  rw [sameStart] at made
  generalize visited : (scanned.visitLines false 0 lines).1.map Visit.cost = found at made
  have length : found.length = lines.length := by
    rw [← visited, List.length_map, length_visitLines scanned false 0 lines complete]
  have atLine : ∀ {index : Nat} {text : Text} {cost : LineCost}, lines[index]? = some text →
      found[index]? = some cost → _ := fun present there =>
    cost_of_visitLines complete present (visited ▸ there)
  have fresh : ∀ cost ∈ found, cost.uncounted = cost := by
    intro cost member
    obtain ⟨index, bound, there⟩ := List.getElem_of_mem member
    exact (atLine (List.getElem?_eq_getElem (length ▸ bound))
      (List.getElem?_eq_some_iff.2 ⟨bound, there⟩)).2.1
  have still := fun cost member => LineCost.counting_eq_false (fresh cost member)
  have carried := isNone_iff_begunBefore start
  subst made
  refine ⟨by rw [length_tally, length], ?_, totals_eq_running fresh⟩
  intro index text cost present there
  -- Without its place in the count, the line is as it was visited.
  have visit : found[index]? = some cost.uncounted := by
    have same : found.map LineCost.uncounted = found :=
      (List.map_congr_left fresh).trans (List.map_id' found)
    rw [← same, ← map_uncounted_tally start 0 start.isNone 0, List.getElem?_map, there]
    rfl
  obtain ⟨number, -, within, elsewhere⟩ := atLine present visit
  have unchanged : after = { scanned with results := after.results } := by
    rw [show after = _ from final.trans kept]
  refine ⟨number, ?_, ?_, ?_, ?_⟩
  · rw [counting_of_tally carried still there, BegunBefore, Nat.zero_add]
    simp only [Int.natCast_add, Int.natCast_one, Int.lt_add_one_iff]
  · rw [running_of_tally fresh there, zero_add, LineCost.sum_counted]
  · rw [unchanged]
    exact within
  · rw [unchanged]
    exact elsewhere

/-- A document with a macro definition, whose start point is the line of a call behind it. -/
theorem analyse_accounts_from_call :
    let session : Session := { startPoints := StartPoints.set .empty none 4 }
    let lines : List Text :=
      ["Two: MACRO".toList, " db 1, 2".toList, " ENDM".toList, " db 1".toList, " Two".toList,
        "; no code".toList, " predef Far".toList]
    ∃ costs, (session.analyse {} lines none none true).result = .ok costs ∧
      costs.length = 7 ∧
      (costs.getLast?.map LineCost.running).getD 0 = { bytes := 10, cycles := 44 } := by
  intro session lines
  have totalled : (session.analyse {} lines none none true).result.toOption.map totals =
      some { bytes := 10, cycles := 44 } := by decide +kernel
  cases returned : (session.analyse {} lines none none true).result with
  | error fault =>
    rw [returned] at totalled
    cases totalled
  | ok costs =>
    obtain ⟨length, -, last⟩ := analyse_accounts session {} lines none none true returned
    refine ⟨costs, rfl, length, ?_⟩
    rw [returned, Except.toOption, Option.map_some, Option.some_inj] at totalled
    exact last.symm.trans totalled

end Session

end Sm83Cost
