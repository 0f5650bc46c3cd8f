import Mathlib.Algebra.Group.Hom.Defs
import Mathlib.Tactic.LinearCombination
import Sm83Cost.Proofs.Cost.Configurations

/-!
# The prices of calls that switch banks

Of a configuration only two things matter to costs: what is assumed of branches,
and what a call that switches banks costs.  Two configurations that agree in both
are the same to an analysis (`analyse_under_congr`), whatever they say about what
is shown.

Configurations that differ in the price of such calls give other costs to these
calls alone (`Repriced`).  Neither macros nor what is counted depend on the price,
so the totals differ by the difference in price for each such call that is counted
(`totals_repriced`).  A price can make them too long to be written.
-/

namespace Sm83Cost

set_option autoImplicit false

/-- The price of a call that switches banks. -/
def Config.price (config : Config) (kind : PredefKind) : Cost :=
  ⟨(config.predefCost kind).1, (config.predefCost kind).2⟩

/-- How many calls of this kind are counted. -/
def countedCalls (kind : PredefKind) (costs : List LineCost) : Nat :=
  costs.countP fun cost => cost.counting && cost.predef.any (·.kind == kind)

/-! ## Lines under two prices -/

/-- The two costs are those of one line with the same origin and the same place in a count.  Only
a call that switches banks may cost something else, and then it has its price under each of the
configurations. -/
structure Repriced (first second : Config) (cost other : LineCost) : Prop where
  same : cost.besidesCosts = other.besidesCosts
  plain : cost.predef = none → other.own = cost.own
  priced : ∀ call, cost.predef = some call →
    cost.known = true ∧ cost.own = first.price call.kind ∧ other.own = second.price call.kind

namespace Repriced

variable {first second : Config} {cost other : LineCost}

theorem of_predef_eq_none (none : cost.predef = none) : Repriced first second cost cost :=
  ⟨rfl, fun _ => rfl, fun call found => by rw [none] at found; cases found⟩

theorem countedAt (repriced : Repriced first second cost other) (total total' : Cost) :
    Repriced first second (cost.countedAt total) (other.countedAt total') :=
  ⟨LineCost.besidesCosts_countedAt repriced.same total total', repriced.plain, repriced.priced⟩

/-- A line adds the difference in price to a total if it is a call that is counted. -/
theorem counted (repriced : Repriced first second cost other) (part : Cost →+ Int) :
    part other.counted = part cost.counted +
      (if cost.counting && cost.predef.any (·.kind == .call) then
        part (second.price .call) - part (first.price .call) else 0) +
      (if cost.counting && cost.predef.any (·.kind == .jump) then
        part (second.price .jump) - part (first.price .jump) else 0) := by
  have counting := LineCost.counting_eq repriced.same
  have known := LineCost.known_eq repriced.same
  rw [LineCost.counted_eq, LineCost.counted_eq, ← counting, ← known]
  cases found : cost.predef with
  | none => simp [repriced.plain found]
  | some call =>
    obtain ⟨priced, here, there⟩ := repriced.priced call found
    rw [priced, here, there]
    obtain ⟨kind, target⟩ := call
    cases cost.counting <;> cases kind <;> simp

end Repriced

/-- Totals differ by the difference in price for each call that is counted. -/
theorem totals_repriced {first second : Config} {costs others : List LineCost}
    (lines : List.Forall₂ (Repriced first second) costs others) (part : Cost →+ Int) :
    part (totals others) - part (totals costs) =
      countedCalls .call costs * (part (second.price .call) - part (first.price .call)) +
      countedCalls .jump costs * (part (second.price .jump) - part (first.price .jump)) := by
  unfold totals countedCalls
  induction lines with
  | nil => simp
  | @cons cost other rest others here _ ih =>
    simp only [List.map_cons, List.sum_cons, List.countP_cons, map_add, here.counted part,
      Nat.cast_add, Nat.cast_ite, Nat.cast_one, Nat.cast_zero]
    split <;> split <;> linear_combination ih

namespace Cost

/-- The bytes of a cost; those of a sum are the sum of those. -/
def bytesPart : Cost →+ Int := ⟨⟨Cost.bytes, rfl⟩, bytes_add⟩

/-- The cycles of a cost; those of a sum are the sum of those. -/
def cyclesPart : Cost →+ Int := ⟨⟨Cost.cycles, rfl⟩, cycles_add⟩

end Cost

namespace Session

/-! ## Configurations that do not matter -/

section Same

variable {first second : Config} (policy : first.assumeBranchTaken = second.assumeBranchTaken)
  (prices : first.predefCost = second.predefCost)
include policy prices

theorem costOf_under_congr (session : Session) (line : Line) (operation : Operation) :
    (session.under second).costOf line operation = (session.under first).costOf line operation := by
  simp only [costOf, under, policy, prices]
  rfl

theorem visitLine_under_congr (session : Session) (inside : Bool) (number : Nat) (text : Text) :
    (session.under second).visitLine inside number text =
      (session.under first).visitLine inside number text := by
  have resolves : (session.under second).resolve = (session.under first).resolve := by
    funext line
    simp only [resolve, costOf_under_congr policy prices]
  simp only [visitLine, resolves]
  rfl

theorem visitLines_under_congr (session : Session) (inside : Bool) (number : Nat)
    (lines : List Text) :
    (session.under second).visitLines inside number lines =
      (session.under first).visitLines inside number lines := by
  induction lines generalizing inside number with
  | nil => rfl
  | cons text rest ih => simp only [visitLines, visitLine_under_congr policy prices, ih]

theorem countLines_under_congr (session : Session) (lines : List Text) (file : Option Text) :
    (session.under second).countLines lines file =
      { (session.under first).countLines lines file with
          session := ((session.under first).countLines lines file).session.under second } := by
  unfold countLines
  rw [visitLines_under_congr policy prices]
  generalize (session.under first).visitLines false 0 lines = visited
  obtain ⟨visits, fault⟩ := visited
  cases fault with
  | some fault => rfl
  | none =>
    simp only [under]
    generalize Scan.writable _ = written
    cases written <;> rfl

/-- Configurations that agree on branches and prices are the same to an analysis. -/
theorem analyse_under_congr (session : Session) (tree : FileTree) (lines : List Text)
    (file : Option Text) (directory : Option Path) (rescan : Bool) :
    (session.under second).analyse tree lines file directory rescan =
      { (session.under first).analyse tree lines file directory rescan with
          session := ((session.under first).analyse tree lines file directory
            rescan).session.under second } := by
  cases rescan with
  | false => exact countLines_under_congr policy prices session lines file
  | true =>
    simp only [analyse, if_true, scan_under]
    cases (session.scan tree lines directory file).result with
    | error fault => rfl
    | ok done => simp only [countLines_under_congr policy prices]

end Same

/-! ## Configurations that differ in prices -/

section Prices

variable {first second : Config} (policy : first.assumeBranchTaken = second.assumeBranchTaken)
include policy

/-- Only a call that switches banks costs something else. -/
theorem costOf_repriced (session : Session) (line : Line) (operation : Operation) :
    Parallel Eq (Repriced first second) ((session.under first).costOf line operation)
      ((session.under second).costOf line operation) := by
  rw [costOf, costOf]
  cases operation.role with
  | directive => exact .ok (.of_predef_eq_none rfl)
  | data bytes => exact .ok (.of_predef_eq_none rfl)
  | predef kind =>
    refine .ok ⟨rfl, fun none => absurd none (Option.some_ne_none _), ?_⟩
    rintro _ ⟨⟩
    exact ⟨rfl, rfl, rfl⟩
  | macroCall =>
    simp only [under, policy]
    split
    · exact .ok (.of_predef_eq_none rfl)
    · refine Parallel.bind (.refl (fun _ => rfl) (fun _ => rfl) _) ?_
      rintro cycles _ rfl
      exact .ok (.of_predef_eq_none rfl)
  | instruction =>
    simp only [under, policy]
    refine Parallel.bind (.refl (fun _ => rfl) (fun _ => rfl) _) ?_
    rintro entry _ rfl
    split
    · exact .ok (.of_predef_eq_none rfl)
    · refine Parallel.bind (.refl (fun _ => rfl) (fun _ => rfl) _) ?_
      rintro cycles _ rfl
      exact .ok (.of_predef_eq_none rfl)

theorem resolve_repriced (session : Session) (line : Line) :
    Parallel Eq (Repriced first second) ((session.under first).resolve line)
      ((session.under second).resolve line) := by
  rw [resolve, resolve]
  cases line.operation with
  | none => exact .ok (.of_predef_eq_none rfl)
  | some operation => exact costOf_repriced policy session line operation

end Prices

/-- **Of a configuration only the assumption on branches and the prices of calls that switch banks
matter, and the prices matter to these calls alone.**  One session analyses a document under two
configurations that assume the same of branches.  Either both analyses give up with the same fault,
or their costs agree line by line in everything but running totals and the costs of calls that
switch banks, and the totals differ by the difference in price for each such call that is counted.
Each of them returns its costs exactly if their totals can be written, so both return them if both
totals can.  Where the prices agree too, the analyses are the same in everything. -/
theorem analyse_repriced (session : Session) {first second : Config}
    (policy : first.assumeBranchTaken = second.assumeBranchTaken) (tree : FileTree)
    (lines : List Text) (file : Option Text) (directory : Option Path) (rescan : Bool) :
    let here := (session.under first).analyse tree lines file directory rescan
    let there := (session.under second).analyse tree lines file directory rescan
    ((∃ fault, here.result = .error fault ∧ there.result = .error fault) ∨
      ∃ costs others, Gives here file costs ∧ Gives there file others ∧
        ((totals costs).canWrite = true → (totals others).canWrite = true →
          here.result = .ok costs ∧ there.result = .ok others) ∧
        List.Forall₂ (Repriced first second) costs others ∧
        (totals others).bytes - (totals costs).bytes =
          countedCalls .call costs * (second.predefBytes - first.predefBytes) +
          countedCalls .jump costs * (second.predefJumpBytes - first.predefJumpBytes) ∧
        (totals others).cycles - (totals costs).cycles =
          countedCalls .call costs * (second.predefCycles - first.predefCycles) +
          countedCalls .jump costs * (second.predefJumpCycles - first.predefJumpCycles)) ∧
    (first.predefCost = second.predefCost →
      there = { here with session := here.session.under second }) := by
  refine ⟨?_, fun prices => analyse_under_congr policy prices session tree lines file directory
    rescan⟩
  rcases analyse_alongside (resolve_repriced policy _) fun line => .of_predef_eq_none rfl with
    failed | ⟨costs, others, found, here, there⟩
  · exact .inl failed
  · let start := session.startPoints.startOf? file
    -- Nothing has to hold of running totals.
    have counted : List.Forall₂ (Repriced first second) (tally start 0 start.isNone {} costs)
        (tally start 0 start.isNone {} others) :=
      tally_alongside (fun _ _ => True) (fun lines _ => ⟨trivial, lines.countedAt _ _⟩) start 0
        start.isNone trivial found
    exact .inr ⟨_, _, here, there, here.both_returned there, counted,
      totals_repriced counted Cost.bytesPart, totals_repriced counted Cost.cyclesPart⟩

/-- Calls that switch banks in a macro, before the start point and behind it, and a macro with the
name of such a call. -/
theorem analyse_repriced_behind_start :
    let session : Session := { startPoints := StartPoints.set .empty none 4 }
    let first : Config := {}
    let second : Config :=
      { showCumulative := false, predefBytes := 10, predefCycles := 50, predefJumpCycles := 40 }
    let lines : List Text :=
      ["Farcall: MACRO".toList, " predef Inner".toList, " ENDM".toList, " predef A".toList,
        " farcall B".toList, " predef_jump C".toList, " homecall D".toList]
    ∃ costs others,
      ((session.under first).analyse {} lines none none true).result = .ok costs ∧
      ((session.under second).analyse {} lines none none true).result = .ok others ∧
      List.Forall₂ (Repriced first second) costs others ∧
      totals costs = { bytes := 16, cycles := 80 } ∧
      totals others = { bytes := 18, cycles := 90 } := by
  intro session first second lines
  have cheap : ((session.under first).analyse {} lines none none true).result.map totals =
      .ok { bytes := 16, cycles := 80 } := by decide +kernel
  have dear : ((session.under second).analyse {} lines none none true).result.map totals =
      .ok { bytes := 18, cycles := 90 } := by decide +kernel
  have policy : first.assumeBranchTaken = second.assumeBranchTaken := rfl
  rcases (analyse_repriced session policy {} lines none none true).1 with
    ⟨fault, failed, -⟩ | ⟨costs, others, here, there, -, found, -⟩
  · rw [failed] at cheap
    cases cheap
  · obtain ⟨returned, total⟩ := here.returned_of_map cheap
    obtain ⟨returned', total'⟩ := there.returned_of_map dear
    exact ⟨costs, others, returned, returned', found, total, total'⟩

/-- At one price of a call the totals can be written, and at another one they cannot. -/
theorem high_price_gives_up :
    let session : Session := {}
    let dear : Config := { predefBytes := (Numeral.decimalBound - 1 : Nat) }
    let lines : List Text := [" predef Foo".toList, " nop".toList]
    ((session.under {}).analyse {} lines none none true).result.map totals =
        .ok { bytes := 9, cycles := 48 } ∧
      ((session.under dear).analyse {} lines none none true).result =
        .error (.numeral .tooLongToWrite) := by
  decide +kernel

end Session

end Sm83Cost
