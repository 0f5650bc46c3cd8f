import Sm83Cost.Proofs.Cost.Completion

/-!
# Moving the start point

The start point of a document says where counting begins, and nothing else.  Two
sessions that differ only in start points find the same costs on all lines of a
document (`analyse_startingFrom`); they differ in which lines they count.

What a document costs from a line on is what it costs as a whole, less what it
costs up to that line (`totals_tally_from`).  The running total of a counted line
is the total of the document cut off behind it (`running_eq_totals`), so one
equation serves for the totals and for every running total.  Together they say
that a start point moves the origin of the totals (`analyse_start_moved`), which may
bring totals within what can be written.
-/

namespace Sm83Cost

set_option autoImplicit false

namespace Cost

/-- Costs are subtracted part by part. -/
instance : Sub Cost := ⟨fun first second =>
  ⟨first.bytes - second.bytes, first.cycles - second.cycles⟩⟩

theorem add_sub_self (first second : Cost) : first + second - first = second := by
  apply ext
  · show first.bytes + second.bytes - first.bytes = second.bytes
    omega
  · show first.cycles + second.cycles - first.cycles = second.cycles
    omega

end Cost

/-- What a line adds to a total when it is counted. -/
def LineCost.adds (cost : LineCost) : Cost :=
  if cost.known then cost.own else 0

/-- The running total of the last line before the given one, and nothing where there is none. -/
def runningBefore (costs : List LineCost) (line : Nat) : Cost :=
  ((costs.take line).getLast?.map LineCost.running).getD 0

namespace Session

/-! ## What is counted -/

/-- Once counting has begun, every line is counted. -/
theorem map_counted_tally (start : Option Int) (number : Nat) (total : Cost)
    (costs : List LineCost) :
    (tally start number true total costs).map LineCost.counted = costs.map LineCost.adds := by
  induction costs generalizing number total with
  | nil => rfl
  | cons cost rest ih =>
    rw [tally, Bool.true_or, if_pos rfl, List.map_cons, List.map_cons, ih]
    rfl

/-- Without a start point, a document costs what its lines add. -/
theorem totals_tally_none (costs : List LineCost) :
    totals (tally none 0 true 0 costs) = (costs.map LineCost.adds).sum := by
  rw [totals, map_counted_tally]

/-- What has not begun to be counted adds nothing. -/
theorem counted_of_uncounted {cost : LineCost} (fresh : cost.uncounted = cost) :
    cost.counted = 0 := by
  rw [← fresh]
  rfl

/-- Where the start point is on none of the lines, nothing is counted. -/
theorem totals_tally_of_never {start : Option Int} {costs : List LineCost}
    (fresh : ∀ cost ∈ costs, cost.uncounted = cost) {number : Nat}
    (never : ∀ index < costs.length, start ≠ some ((number + index : Nat) : Int)) (total : Cost) :
    totals (tally start number false total costs) = 0 := by
  induction costs generalizing number with
  | nil => rfl
  | cons cost rest ih =>
    have here : start ≠ some (number : Int) := never 0 (Nat.zero_lt_succ _)
    have later : ∀ index < rest.length, start ≠ some ((number + 1 + index : Nat) : Int) := by
      intro index bound
      rw [Nat.add_assoc, Nat.add_comm 1]
      exact never (index + 1) (Nat.succ_lt_succ bound)
    have others := ih (fun other member => fresh other (List.mem_cons_of_mem cost member)) later
    have asleep := counted_of_uncounted (fresh cost List.mem_cons_self)
    rw [tally, Bool.false_or, beq_eq_false_iff_ne.2 here]
    show (cost.counted :: (tally start (number + 1) false total rest).map LineCost.counted).sum = 0
    rw [List.sum_cons, asleep, zero_add]
    exact others

/-- With a start point, a document costs what the lines from there on add. -/
theorem totals_tally_some {costs : List LineCost}
    (fresh : ∀ cost ∈ costs, cost.uncounted = cost) {number start : Nat}
    (ahead : number ≤ start) (total : Cost) :
    totals (tally (some (start : Int)) number false total costs) =
      ((costs.drop (start - number)).map LineCost.adds).sum := by
  induction costs generalizing number with
  | nil => simp [tally, totals]
  | cons cost rest ih =>
    by_cases here : start = number
    · subst here
      rw [tally, Bool.false_or, beq_self_eq_true, if_pos rfl, Nat.sub_self, List.drop_zero, totals,
        List.map_cons, map_counted_tally]
      rfl
    · have other : some (start : Int) ≠ some (number : Int) := by
        intro same
        apply here
        exact Int.ofNat_inj.1 (Option.some.inj same)
      have asleep := counted_of_uncounted (fresh cost List.mem_cons_self)
      have onward : start - number = start - (number + 1) + 1 := by omega
      have ahead : number + 1 ≤ start := by omega
      have others := ih (fun other member => fresh other (List.mem_cons_of_mem cost member)) ahead
      rw [tally, Bool.false_or, beq_eq_false_iff_ne.2 other, onward, List.drop_succ_cons, ← others]
      show (cost.counted :: (tally _ (number + 1) false total rest).map LineCost.counted).sum = _
      rw [List.sum_cons, asleep, zero_add]
      rfl

/-- **From a start point on, a document costs what it costs as a whole, less what it costs up to
there.** -/
theorem totals_tally_from {costs : List LineCost}
    (fresh : ∀ cost ∈ costs, cost.uncounted = cost) (start : Nat) :
    totals (tally (some (start : Int)) 0 false 0 costs) =
      totals (tally none 0 true 0 costs) - totals (tally none 0 true 0 (costs.take start)) := by
  have split : (costs.map LineCost.adds).sum =
      ((costs.take start).map LineCost.adds).sum + ((costs.drop start).map LineCost.adds).sum := by
    rw [← List.sum_append, ← List.map_append, List.take_append_drop]
  rw [totals_tally_some fresh (Nat.zero_le start), totals_tally_none, totals_tally_none, split,
    Cost.add_sub_self, Nat.sub_zero]

/-! ## Running totals as totals -/

/-- Lines are counted in order, so a document may be cut off before or after counting. -/
theorem take_tally (start : Option Int) (number : Nat) (counting : Bool) (total : Cost)
    (costs : List LineCost) (count : Nat) :
    (tally start number counting total costs).take count =
      tally start number counting total (costs.take count) := by
  induction costs generalizing number counting total count with
  | nil => simp [tally]
  | cons cost rest ih =>
    cases count with
    | zero => simp [tally]
    | succ count =>
      rw [tally, List.take_succ_cons, tally]
      dsimp only
      split
      · rw [List.take_succ_cons, ih]
      · rw [List.take_succ_cons, ih]

/-- The running total of a counted line is the total of the document cut off behind it. -/
theorem running_eq_totals {start : Option Int} {costs : List LineCost}
    (fresh : ∀ cost ∈ costs, cost.uncounted = cost) {index : Nat} {cost : LineCost}
    (found : (tally start 0 start.isNone 0 costs)[index]? = some cost)
    (counted : cost.counting = true) :
    cost.running = totals (tally start 0 start.isNone 0 (costs.take (index + 1))) := by
  rw [running_of_tally fresh found, counted, if_pos rfl, zero_add, take_tally]
  rfl

theorem runningBefore_tally {costs : List LineCost}
    (fresh : ∀ cost ∈ costs, cost.uncounted = cost) (line : Nat) :
    runningBefore (tally none 0 true 0 costs) line =
      totals (tally none 0 true 0 (costs.take line)) := by
  have cut : ∀ cost ∈ costs.take line, cost.uncounted = cost := by
    intro cost member
    exact fresh cost (List.mem_of_mem_take member)
  rw [runningBefore, take_tally]
  have last : totals (tally none 0 true 0 (costs.take line)) = _ := totals_eq_running cut
  exact last.symm

/-- A start point moves the origin of the running totals. -/
theorem running_tally_from {costs : List LineCost}
    (fresh : ∀ cost ∈ costs, cost.uncounted = cost) {start index : Nat} (reached : start ≤ index)
    {cost other : LineCost} (whole : (tally none 0 true 0 costs)[index]? = some cost)
    (part : (tally (some (start : Int)) 0 false 0 costs)[index]? = some other) :
    other.running = cost.running - runningBefore (tally none 0 true 0 costs) start := by
  have cut : ∀ cost ∈ costs.take (index + 1), cost.uncounted = cost := by
    intro cost member
    exact fresh cost (List.mem_of_mem_take member)
  have still := fun cost member => LineCost.counting_eq_false (fresh cost member)
  have begun : cost.counting = true :=
    (counting_of_tally (isNone_iff_begunBefore none) still whole).2 (.inl rfl)
  have begun' : other.counting = true := by
    apply (counting_of_tally (isNone_iff_begunBefore (some (start : Int))) still part).2
    exact .inr ⟨start, rfl, by omega, by omega⟩
  have before : (costs.take (index + 1)).take start = costs.take start := by
    rw [List.take_take, Nat.min_eq_left (by omega)]
  rw [running_eq_totals fresh whole begun, running_eq_totals fresh part begun',
    runningBefore_tally fresh]
  show totals (tally (some (start : Int)) 0 false 0 (costs.take (index + 1))) = _
  rw [totals_tally_from cut, before]
  rfl

/-! ## Sessions with other start points -/

/-- The session with other start points. -/
def startingFrom (session : Session) (points : StartPoints) : Session :=
  { session with startPoints := points }

/-- A scan takes no account of start points. -/
theorem scan_startingFrom (session : Session) (points : StartPoints) (tree : FileTree)
    (lines : List Text) (directory : Option Path) (file : Option Text) :
    (session.startingFrom points).scan tree lines directory file =
      { session.scan tree lines directory file with
          session := (session.scan tree lines directory file).session.startingFrom points } := by
  have scanner : (session.startingFrom points).scanner = session.scanner := rfl
  unfold scan
  rw [scanner]
  split <;> rfl

/-- Neither does the visit of any line. -/
theorem visitLines_startingFrom (session : Session) (points : StartPoints) (lines : List Text) :
    ((session.startingFrom points).visitLines false 0 lines).1.map Visit.cost =
        (session.visitLines false 0 lines).1.map Visit.cost ∧
      ((session.startingFrom points).visitLines false 0 lines).2 =
        (session.visitLines false 0 lines).2 := by
  have resolves : ∀ line, Parallel Eq Eq ((session.startingFrom points).resolve line)
      (session.resolve line) := by
    intro line
    exact .refl (fun _ => rfl) (fun _ => rfl) _
  have scanners : (session.startingFrom points).scanner = session.scanner := rfl
  obtain ⟨costs, faults⟩ := visitLines_alongside scanners resolves (fun _ => rfl) false 0 lines
  rw [List.forall₂_eq_eq_eq] at costs
  exact ⟨costs, faults⟩

/-- The cost of a line in a document that was visited is not yet part of a count. -/
theorem uncounted_of_visitLines {session : Session} {lines : List Text}
    (complete : (session.visitLines false 0 lines).2 = none) :
    ∀ cost ∈ (session.visitLines false 0 lines).1.map Visit.cost, cost.uncounted = cost := by
  intro cost member
  obtain ⟨index, bound, found⟩ := List.getElem_of_mem member
  have inside : index < lines.length := by
    rw [← length_visitLines session false 0 lines complete]
    rwa [List.length_map] at bound
  exact (cost_of_visitLines complete (List.getElem?_eq_getElem inside)
    (List.getElem?_eq_some_iff.2 ⟨bound, found⟩)).2.1

/-- Two counts of a document from different start points fail alike, or count the same costs. -/
theorem countLines_startingFrom (session : Session) (points : StartPoints) (lines : List Text)
    (file : Option Text) :
    (∃ fault, (session.countLines lines file).result = .error fault ∧
      ((session.startingFrom points).countLines lines file).result = .error fault) ∨
    ∃ costs, costs.length = lines.length ∧ (∀ cost ∈ costs, cost.uncounted = cost) ∧
      Gives (session.countLines lines file) file
        (tally (session.startPoints.startOf? file) 0
          (session.startPoints.startOf? file).isNone 0 costs) ∧
      Gives ((session.startingFrom points).countLines lines file) file
        (tally (points.startOf? file) 0 (points.startOf? file).isNone 0 costs) := by
  obtain ⟨same, faults⟩ := visitLines_startingFrom session points lines
  rcases countLines_together rfl rfl faults.symm with failed | ⟨complete, here, there⟩
  · exact .inl failed
  · rw [same] at there
    refine .inr ⟨_, ?_, uncounted_of_visitLines complete, here, there⟩
    rw [List.length_map, length_visitLines session false 0 lines complete]

/-- **Start points take no part in finding costs.**  Two analyses of a document that differ in them
fail alike, or count the same costs. -/
theorem analyse_startingFrom (session : Session) (points : StartPoints) (tree : FileTree)
    (lines : List Text) (file : Option Text) (directory : Option Path) (rescan : Bool) :
    (∃ fault, (session.analyse tree lines file directory rescan).result = .error fault ∧
      ((session.startingFrom points).analyse tree lines file directory rescan).result =
        .error fault) ∨
    ∃ costs, costs.length = lines.length ∧ (∀ cost ∈ costs, cost.uncounted = cost) ∧
      Gives (session.analyse tree lines file directory rescan) file
        (tally (session.startPoints.startOf? file) 0
          (session.startPoints.startOf? file).isNone 0 costs) ∧
      Gives ((session.startingFrom points).analyse tree lines file directory rescan) file
        (tally (points.startOf? file) 0 (points.startOf? file).isNone 0 costs) := by
  cases rescan with
  | false => exact countLines_startingFrom session points lines file
  | true =>
    have kept : (session.scan tree lines directory file).session.startPoints =
        session.startPoints := by rw [scan_session]
    simp only [analyse, if_true, scan_startingFrom]
    generalize session.scan tree lines directory file = scanned at kept ⊢
    cases scanned.result with
    | error fault => exact .inl ⟨fault, rfl, rfl⟩
    | ok done =>
      rw [← kept]
      rcases countLines_startingFrom scanned.session points lines file with
        failed | ⟨costs, length, fresh, here, there⟩
      · exact .inl failed
      · exact .inr ⟨costs, length, fresh, here.after _, there.after _⟩

/-- **Moving the start point only moves the origin of the totals.**  Two sessions that differ in
their start points analyse a document.  Either both give up with the same fault, or the costs that
they find agree line by line in everything but the place in the count.  If the first has no start
point and the second has one on a line of the document, then from that line on every running total
of the second is that of the first, less the running total before the line, and so is the total
over the document.  With a start point outside of the document the total is nothing.  Each of them
returns its costs exactly if their totals can be written, so both return them if both totals
can. -/
theorem analyse_start_moved (session : Session) (points : StartPoints) (tree : FileTree)
    (lines : List Text) (file : Option Text) (directory : Option Path) (rescan : Bool) :
    let first := session.analyse tree lines file directory rescan
    let second := (session.startingFrom points).analyse tree lines file directory rescan
    (∃ fault, first.result = .error fault ∧ second.result = .error fault) ∨
    ∃ costs others, Gives first file costs ∧ Gives second file others ∧
      ((totals costs).canWrite = true → (totals others).canWrite = true →
        first.result = .ok costs ∧ second.result = .ok others) ∧
      costs.map LineCost.uncounted = others.map LineCost.uncounted ∧
      (session.startPoints.startOf? file = none →
        ∀ start : Nat, points.startOf? file = some (start : Int) → start < lines.length →
          totals others = totals costs - runningBefore costs start ∧
          ∀ index cost other, start ≤ index → costs[index]? = some cost →
            others[index]? = some other →
            other.running = cost.running - runningBefore costs start) ∧
      ∀ point, points.startOf? file = some point → point < 0 ∨ (lines.length : Int) ≤ point →
        totals others = 0 := by
  intro first second
  rcases analyse_startingFrom session points tree lines file directory rescan with
    failed | ⟨found, length, fresh, here, there⟩
  · exact .inl failed
  refine .inr ⟨_, _, here, there, here.both_returned there, ?_, ?_, ?_⟩
  · rw [map_uncounted_tally, map_uncounted_tally]
  · intro whole start moved _
    rw [whole, moved]
    constructor
    · rw [Option.isNone_none, runningBefore_tally fresh]
      exact totals_tally_from fresh start
    · intro index cost other reached inFirst inSecond
      exact running_tally_from fresh reached inFirst inSecond
  · intro point moved outside
    rw [moved]
    apply totals_tally_of_never fresh
    intro index bound same
    have equal : point = ((0 + index : Nat) : Int) := Option.some.inj same
    omega

/-- The start point is moved into the body of a macro, where no line has a cost, and counting
begins there. -/
theorem analyse_start_moved_into_macro :
    let lines : List Text :=
      [" nop".toList, "Two: MACRO".toList, " db 1, 2".toList, " ENDM".toList, " Two".toList,
        " halt".toList]
    let points : StartPoints := StartPoints.set .empty none 2
    ∃ costs others,
      (({} : Session).analyse {} lines none none true).result = .ok costs ∧
      ((({} : Session).startingFrom points).analyse {} lines none none true).result = .ok others ∧
      totals costs = { bytes := 4, cycles := 8 } ∧
      runningBefore costs 2 = { bytes := 1, cycles := 4 } ∧
      totals others = totals costs - runningBefore costs 2 := by
  intro lines points
  have whole : (({} : Session).analyse {} lines none none true).result.map
      (fun costs => (totals costs, runningBefore costs 2)) =
        .ok ({ bytes := 4, cycles := 8 }, { bytes := 1, cycles := 4 }) := by decide +kernel
  have part : ((({} : Session).startingFrom points).analyse {} lines none none true).result.map
      totals = .ok { bytes := 3, cycles := 4 } := by decide +kernel
  rcases analyse_start_moved {} points {} lines none none true with
    ⟨fault, failed, -⟩ | ⟨costs, others, here, there, -, -, moved, -⟩
  · rw [failed] at whole
    cases whole
  · obtain ⟨difference, -⟩ := moved rfl 2 rfl (by decide)
    obtain ⟨returned, measured⟩ := here.returned_of_map whole
    obtain ⟨total, before⟩ := Prod.mk.inj measured
    obtain ⟨returned', -⟩ := there.returned_of_map part
    exact ⟨costs, others, returned, returned', total, before, difference⟩

/-- A document that begins with a line that reserves space, counted as a whole, and from its second
line on. -/
theorem countLines_from_reservation (count : Nat) :
    let lines : List Text := [Line.reservation count, " nop".toList]
    let points : StartPoints := StartPoints.set .empty none 1
    ∃ costs others, Gives (({} : Session).countLines lines none) none costs ∧
      Gives ((({} : Session).startingFrom points).countLines lines none) none others ∧
      totals costs = ⟨(16 ^ count - 1 : Nat) + 1, 4⟩ ∧ totals others = ⟨1, 4⟩ ∧
      ∃ cost ∈ others, cost.known = true ∧ cost.own.bytes = (16 ^ count - 1 : Nat) := by
  intro lines points
  obtain ⟨reserves, executes, found, complete, known, own, known', own'⟩ :=
    visitLines_reservation count
  obtain ⟨same, faults⟩ := visitLines_startingFrom {} points lines
  have starts : points.startOf? none = some ((1 : Nat) : Int) := by decide
  have whole : Gives (({} : Session).countLines lines none) none _ := countLines_gives complete
  have part : Gives ((({} : Session).startingFrom points).countLines lines none) none _ :=
    countLines_gives (faults.trans complete)
  have fresh := uncounted_of_visitLines complete
  have started : (({} : Session).startingFrom points).startPoints.startOf? none = some _ := starts
  rw [found] at whole fresh
  rw [same, found, started] at part
  have adds : reserves.adds = ⟨(16 ^ count - 1 : Nat), 0⟩ := by
    rw [LineCost.adds, known, if_pos rfl, own]
  have adds' : executes.adds = ⟨1, 4⟩ := by rw [LineCost.adds, known', if_pos rfl, own']
  refine ⟨_, _, whole, part, ?_, ?_, reserves, List.mem_cons_self, known, congrArg _ own⟩
  · refine (totals_tally_none _).trans ?_
    rw [List.map_cons, List.map_singleton, adds, adds', List.sum_cons, List.sum_singleton]
    rfl
  · refine (totals_tally_some fresh (Nat.zero_le 1) 0).trans ?_
    rw [Nat.sub_zero, List.drop_succ_cons, List.drop_zero, List.map_singleton, adds',
      List.sum_singleton]

/-- Space is reserved by a numeral with 3572 hexadecimal digits.  The totals of the document cannot
be written, but those from its second line on can. -/
theorem whole_document_gives_up :
    let lines : List Text := [Line.reservation 3572, " nop".toList]
    let points : StartPoints := StartPoints.set .empty none 1
    (({} : Session).analyse {} lines none none false).result = .error (.numeral .tooLongToWrite) ∧
      ∃ costs, ((({} : Session).startingFrom points).analyse {} lines none none false).result =
        .ok costs ∧ totals costs = ⟨1, 4⟩ := by
  have unscanned : ∀ (session : Session) (lines : List Text),
      session.analyse {} lines none none false = session.countLines lines none := fun _ _ => rfl
  have long : Cost.canWrite ⟨(16 ^ 3572 - 1 : Nat) + 1, 4⟩ = false := by decide +kernel
  have short : Cost.canWrite ⟨1, 4⟩ = true := by decide +kernel
  obtain ⟨costs, others, whole, part, total, total', -⟩ := countLines_from_reservation 3572
  intro lines points
  rw [unscanned, unscanned]
  exact ⟨whole.givenUp (total ▸ long), others, part.returned (total' ▸ short), total'⟩

end Session

end Sm83Cost
