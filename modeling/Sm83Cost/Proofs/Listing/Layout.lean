import Sm83Cost.Proofs.Cost.StartPoints
import Sm83Cost.Proofs.Listing.Numbers

/-!
# The layout of a listing

A listing of an analysed document shows each line of it unchanged, and behind it the remark on it,
if there is one.  All remarks begin in one column, four behind the end of the longest line with a
known cost (`Placed`).  Details follow the lines they belong to, and nothing else is added
(`withDetail`).

The width is found by the numbers of lines, and remarks are put on lines by position; an analysis
numbers lines by position, so both speak of the same lines (`InOrder`).  The listing of an analysed
document fails only on a number that is too long to be written.  There are such listings: the totals
that an analysis notes leave out lines that are not counted.
-/

namespace Sm83Cost

set_option autoImplicit false

namespace Listing

/-! ## The width -/

/-- The length of the longest line with a known cost. -/
def longest (lines : List Text) (costs : List LineCost) : Nat :=
  (((lines.zip costs).filter fun entry => entry.2.known).map fun entry =>
    entry.1.length).foldr max 0

/-- The width is that of the lines that costs name by their numbers. -/
theorem width_eq {lines texts : List Text} {costs : List LineCost}
    (each : List.Forall₂ (fun text cost => lineAt? lines cost.line.number = some text) texts
      costs) : width lines costs = .ok (longest texts costs) := by
  induction each with
  | nil => rfl
  | @cons text cost texts costs here _ ih =>
    rw [width, longest, List.zip_cons_cons, List.filter_cons]
    cases cost.known with
    | false =>
      simp only [Bool.false_eq_true, if_false]
      exact ih
    | true =>
      simp only [if_true, here, ih]
      rfl

theorem le_foldr_max {lengths : List Nat} {length : Nat} (among : length ∈ lengths) :
    length ≤ lengths.foldr max 0 := by
  induction lengths with
  | nil => cases among
  | cons first rest ih =>
    rw [List.foldr_cons]
    rcases List.mem_cons.1 among with rfl | later
    · omega
    · have bound := ih later
      omega

/-- No line with a known cost is longer. -/
theorem le_longest {lines : List Text} {costs : List LineCost} {index : Nat} {text : Text}
    {cost : LineCost} (present : lines[index]? = some text) (found : costs[index]? = some cost)
    (known : cost.known = true) : text.length ≤ longest lines costs := by
  have member : (text, cost) ∈ lines.zip costs :=
    List.mem_of_getElem? (List.getElem?_zip_eq_some.2 ⟨present, found⟩)
  apply le_foldr_max
  exact List.mem_map.2 ⟨(text, cost), List.mem_filter.2 ⟨member, known⟩, rfl⟩

/-! ## Lines with their remarks -/

/-- A line as a listing shows it: by itself if there is no remark on it, and otherwise followed by
at least four blanks, so that the remark begins in the column. -/
inductive Placed (column : Nat) (text : Text) : (remark shown : Text) → Prop where
  | bare : Placed column text [] text
  | remarked {remark : Text} (some : remark ≠ []) {blanks : Nat} (apart : 4 ≤ blanks)
      (aligned : text.length + blanks = column) :
      Placed column text remark (text ++ List.replicate blanks ' ' ++ remark)

theorem placed_remarked {width : Nat} {text remark : Text}
    (fits : remark ≠ [] → text.length ≤ width) :
    Placed (width + 4) text remark (remarked width text remark) := by
  cases remark with
  | nil => exact .bare
  | cons c rest =>
    have bound := fits (List.cons_ne_nil c rest)
    apply Placed.remarked (List.cons_ne_nil c rest)
    · show 4 ≤ width + 4 - text.length
      omega
    · show text.length + (width + 4 - text.length) = width + 4
      omega

/-- There is a remark only on a line with a known cost. -/
theorem known_of_remark {config : Config} {cost : LineCost} {text : Text}
    (made : remark config cost = .ok text) (some : text ≠ []) : cost.known = true := by
  cases known : cost.known with
  | true => rfl
  | false =>
    rw [remark, known] at made
    cases made
    exact absurd rfl some

/-! ## What is shown for a line -/

/-- The line stands with its remark as the column wants it. -/
def Remarked (config : Config) (width : Nat) (entry : Text × LineCost) (shown : Text) : Prop :=
  ∃ remark, Listing.remark config entry.2 = .ok remark ∧ shown = remarked width entry.1 remark

/-- A shown line, and behind it the details if there are any. -/
def withDetail (shown : Text) (details : Option Text) : List Text :=
  shown :: (details.map ("    ".toList ++ ·)).toList

section

variable {config : Config} {width : Nat} {text : Text} {cost : LineCost} {piece : List Text}

theorem shownLine_false_eq_ok :
    shownLine config false width text cost = .ok piece ↔
      ∃ shown, Remarked config width (text, cost) shown ∧ piece = [shown] := by
  rw [shownLine, Fault.bind_eq_ok]
  constructor
  · rintro ⟨remark, made, done⟩
    cases done
    exact ⟨_, ⟨remark, Fault.ofNumeral_eq_ok.1 made, rfl⟩, rfl⟩
  · rintro ⟨_, ⟨remark, made, rfl⟩, rfl⟩
    exact ⟨remark, Fault.ofNumeral_eq_ok.2 made, rfl⟩

theorem exists_of_shownLine_true (made : shownLine config true width text cost = .ok piece) :
    ∃ shown details, Remarked config width (text, cost) shown ∧ details? cost = .ok details ∧
      piece = withDetail shown details := by
  rw [shownLine, Fault.bind_eq_ok] at made
  obtain ⟨remark, found, made⟩ := made
  rw [if_pos rfl, Fault.bind_eq_ok] at made
  obtain ⟨details, detailed, made⟩ := made
  refine ⟨_, details, ⟨remark, Fault.ofNumeral_eq_ok.1 found, rfl⟩, detailed, ?_⟩
  cases details with
  | none =>
    cases made
    rfl
  | some text =>
    cases made
    rfl

end

/-! ## Whole listings -/

variable {config : Config} {lines : List Text} {costs : List LineCost}

theorem shownLines_false_eq_ok {width : Nat} {pieces : List (List Text)} :
    shownLines config false width lines costs = .ok pieces ↔
      ∃ entries, List.Forall₂ (Remarked config width) (lines.zip costs) entries ∧
        pieces = entries.map fun shown => [shown] := by
  rw [shownLines, Traversal.mapM_eq_ok]
  generalize lines.zip costs = pairs
  constructor
  · intro each
    induction each with
    | nil => exact ⟨[], .nil, rfl⟩
    | cons here _ ih =>
      obtain ⟨shown, stands, rfl⟩ := shownLine_false_eq_ok.1 here
      obtain ⟨entries, others, rfl⟩ := ih
      exact ⟨shown :: entries, .cons stands others, rfl⟩
  · rintro ⟨entries, each, rfl⟩
    induction each with
    | nil => exact .nil
    | cons stands _ ih => exact .cons (shownLine_false_eq_ok.2 ⟨_, stands, rfl⟩) ih

theorem exists_of_shownLines_true {width : Nat} {pieces : List (List Text)}
    (made : shownLines config true width lines costs = .ok pieces) :
    ∃ entries details, List.Forall₂ (Remarked config width) (lines.zip costs) entries ∧
      List.Forall₂ (fun entry details => details? entry.2 = .ok details) (lines.zip costs)
        details ∧
      pieces = List.zipWith withDetail entries details := by
  rw [shownLines, Traversal.mapM_eq_ok] at made
  generalize lines.zip costs = pairs at made ⊢
  induction made with
  | nil => exact ⟨[], [], .nil, .nil, rfl⟩
  | cons here _ ih =>
    obtain ⟨shown, details, stands, detailed, rfl⟩ := exists_of_shownLine_true here
    obtain ⟨entries, others, each, explained, rfl⟩ := ih
    exact ⟨shown :: entries, details :: others, .cons stands each, .cons detailed explained, rfl⟩

theorem render_eq {width : Nat} (wide : Listing.width lines costs = .ok width)
    (withDetails : Bool) :
    render config lines costs withDetails =
      ((shownLines config withDetails width lines costs).map List.flatten).mapError .fault := by
  unfold render
  rw [wide]
  generalize shown : shownLines config withDetails width lines costs = result
  show Except.bind (.ok width) _ = _
  rw [Except.bind, shown]
  cases result <;> rfl

theorem render_eq_ok {width : Nat} (wide : Listing.width lines costs = .ok width)
    {withDetails : Bool} {output : List Text} :
    render config lines costs withDetails = .ok output ↔
      ∃ pieces, shownLines config withDetails width lines costs = .ok pieces ∧
        output = pieces.flatten := by
  rw [render_eq wide]
  cases shownLines config withDetails width lines costs with
  | ok pieces => simp [Except.map, Except.mapError, eq_comm]
  | error cause => simp [Except.map, Except.mapError]

/-- Without details a listing has one entry for each line. -/
theorem render_false_eq_ok {width : Nat} (wide : Listing.width lines costs = .ok width)
    {output : List Text} :
    render config lines costs false = .ok output ↔
      List.Forall₂ (Remarked config width) (lines.zip costs) output := by
  have alone : ∀ entries : List Text, (entries.map fun shown => [shown]).flatten = entries := by
    intro entries
    rw [← List.flatMap_def, List.flatMap_singleton']
  rw [render_eq_ok wide]
  simp only [shownLines_false_eq_ok]
  constructor
  · rintro ⟨_, ⟨entries, stands, rfl⟩, rfl⟩
    rwa [alone]
  · intro stands
    exact ⟨_, ⟨output, stands, rfl⟩, (alone output).symm⟩

/-- A listing fails only on the numbers of its lines. -/
theorem render_writes (config : Config) {width : Nat}
    (wide : Listing.width lines costs = .ok width) (lists : ∀ cost ∈ costs, ListsCycles cost)
    (short : costs.length ≤ lines.length) (withDetails : Bool) :
    Writes (.fault (.numeral .tooLongToWrite)) (costs.flatMap (shownNumbers config withDetails))
      (render config lines costs withDetails) := by
  have each : ∀ entry ∈ lines.zip costs, Writes (.numeral .tooLongToWrite)
      (shownNumbers config withDetails entry.2)
      (shownLine config withDetails width entry.1 entry.2) := fun entry member =>
    shownLine_writes config withDetails width entry.1 (lists _ (List.of_mem_zip member).2)
  have numbers : costs.flatMap (shownNumbers config withDetails) =
      (lines.zip costs).flatMap fun entry => shownNumbers config withDetails entry.2 := by
    conv_lhs => rw [← List.map_snd_zip short, List.flatMap_map]
  have writes : Writes (.numeral .tooLongToWrite) _
    (shownLines config withDetails width lines costs) := Writes.mapM each
  rw [render_eq wide, numbers]
  generalize shownLines config withDetails width lines costs = shown at writes ⊢
  cases writes with
  | ok pieces fit => exact .ok _ fit
  | error long => exact .error long

/-! ## Costs in the order of the lines -/

/-- There is a cost for each line, which has the position of the line as its number and lists its
cycles. -/
structure InOrder (lines : List Text) (costs : List LineCost) : Prop where
  length : costs.length = lines.length
  number : ∀ (index : Nat) (cost : LineCost), costs[index]? = some cost →
    cost.line.number = index
  lists : ∀ cost ∈ costs, ListsCycles cost

namespace InOrder

variable (order : InOrder lines costs)
include order

theorem width_eq_longest : Listing.width lines costs = .ok (longest lines costs) := by
  apply width_eq
  rw [List.forall₂_iff_get]
  refine ⟨order.length.symm, ?_⟩
  intro index within bound
  have number := order.number index costs[index] (List.getElem?_eq_getElem bound)
  simp [lineAt?, number]

/-- What stands in each place of a listing. -/
theorem placed {config : Config} {entries : List Text}
    (stands : List.Forall₂ (Remarked config (longest lines costs)) (lines.zip costs) entries) :
    entries.length = lines.length ∧
      ∀ (index : Nat) (text : Text) (cost : LineCost), lines[index]? = some text →
        costs[index]? = some cost →
        ∃ remark shown, Listing.remark config cost = .ok remark ∧
          entries[index]? = some shown ∧
          Placed (longest lines costs + 4) text remark shown := by
  have length : (lines.zip costs).length = lines.length := by
    rw [List.length_zip, order.length, Nat.min_self]
  refine ⟨stands.length_eq.symm.trans length, ?_⟩
  intro index text cost present found
  have pair : (lines.zip costs)[index]? = some (text, cost) :=
    List.getElem?_zip_eq_some.2 ⟨present, found⟩
  obtain ⟨bound, here⟩ := List.getElem?_eq_some_iff.1 pair
  obtain ⟨remark, made, shown⟩ :=
    (List.forall₂_iff_get.1 stands).2 index bound (stands.length_eq ▸ bound)
  simp only [List.get_eq_getElem, here] at made shown
  refine ⟨remark, _, made, List.getElem?_eq_getElem (stands.length_eq ▸ bound), ?_⟩
  rw [shown]
  apply placed_remarked
  intro some
  exact le_longest present found (known_of_remark made some)

end InOrder

end Listing

/-! ## Listings of analysed documents -/

namespace Session

open Listing

theorem listsCycles_of_none {cost : LineCost} (plain : cost.opcode = none)
    (uncalled : cost.macroCall.bind MacroCall.definition = none) : ListsCycles cost where
  opcode := by simp [plain]
  definition := by simp [uncalled]

/-- Whatever a line costs, its cycles are listed. -/
theorem listsCycles_of_resolve {session : Session} {line : Line} {cost : LineCost}
    (resolved : session.resolve line = .ok cost) : ListsCycles cost := by
  rw [resolve] at resolved
  cases found : line.operation with
  | none =>
    rw [found] at resolved
    cases resolved
    exact listsCycles_of_none rfl rfl
  | some operation =>
    simp only [found, costOf] at resolved
    split at resolved
    · cases resolved
      exact listsCycles_of_none rfl rfl
    · cases resolved
      exact listsCycles_of_none rfl rfl
    · cases resolved
      exact listsCycles_of_none rfl rfl
    · split at resolved
      · cases resolved
        exact listsCycles_of_none rfl rfl
      · rename_i definition _
        obtain ⟨cycles, required, made⟩ := Fault.bind_eq_ok.1 resolved
        cases made
        refine ⟨by simp, ?_⟩
        rintro _ ⟨⟩ none
        rw [Fault.requireCycles_eq_ok, Cycles.most?, Cycles.fewest?, none] at required
        split at required <;> cases required
    · obtain ⟨entry, -, made⟩ := Fault.bind_eq_ok.1 resolved
      cases entry with
      | none =>
        cases made
        exact listsCycles_of_none rfl rfl
      | some entry =>
        obtain ⟨cycles, required, made⟩ := Fault.bind_eq_ok.1 made
        cases made
        refine ⟨?_, by simp⟩
        rintro _ ⟨⟩ none
        rw [Fault.requireCycles_eq_ok, Cycles.select?, Cycles.most?, Cycles.untaken?, none]
          at required
        split at required <;> cases required

variable {session : Session} {lines : List Text}

/-- What is counted are the lines as they were visited. -/
theorem inOrder_of_countLines {file : Option Text} {costs : List LineCost}
    (counted : (session.countLines lines file).result = .ok costs) : InOrder lines costs := by
  obtain ⟨complete, rfl, -⟩ := countLines_eq_ok counted
  generalize session.startPoints.startOf? file = start
  have length : (tally start 0 start.isNone 0
      ((session.visitLines false 0 lines).1.map Visit.cost)).length = lines.length := by
    rw [length_tally, List.length_map, length_visitLines session false 0 lines complete]
  have each : ∀ (index : Nat) (cost : LineCost), (tally start 0 start.isNone 0
      ((session.visitLines false 0 lines).1.map Visit.cost))[index]? = some cost →
      cost.line.number = index ∧ ListsCycles cost := by
    intro index cost found
    obtain ⟨bound, -⟩ := List.getElem?_eq_some_iff.1 found
    have present := List.getElem?_eq_getElem (length ▸ bound)
    -- Counting changes neither the line nor what it costs by itself.
    have same : (((session.visitLines false 0 lines).1.map Visit.cost).map
        LineCost.uncounted)[index]? = some cost.uncounted := by
      rw [← map_uncounted_tally start 0 start.isNone 0, List.getElem?_map, found]
      rfl
    rw [List.getElem?_map, Option.map_eq_some_iff] at same
    obtain ⟨visited, there, same⟩ := same
    obtain ⟨number, -, within, elsewhere⟩ := cost_of_visitLines complete present there
    have lists : ListsCycles visited := by
      by_cases part : session.InDefinition lines index
      · rw [within part]
        exact listsCycles_of_none rfl rfl
      · obtain ⟨line, -, resolved⟩ := Fault.bind_eq_ok.1 (elsewhere part)
        exact listsCycles_of_resolve resolved
    have line : visited.line = cost.line := (congrArg LineCost.line same :)
    have opcode : visited.opcode = cost.opcode := (congrArg LineCost.opcode same :)
    have call : visited.macroCall = cost.macroCall := (congrArg LineCost.macroCall same :)
    exact ⟨line ▸ number, opcode ▸ lists.opcode, call ▸ lists.definition⟩
  refine ⟨length, fun index cost found => (each index cost found).1, ?_⟩
  intro cost member
  obtain ⟨index, found⟩ := List.mem_iff_getElem?.1 member
  exact (each index cost found).2

/-- **The listing of an analysed document is aligned and loses no text.**  It can be made, with or
without details, exactly if the numbers that it shows can be written.  Without details it has one
entry for each line: the line by itself if there is no remark on it, and otherwise the line, at
least four blanks, and the remark, which begins four behind the end of the longest line with a known
cost.  With details it has the same entries, each followed by the details of its line, if there are
any, behind four blanks. -/
theorem render_analysed (session : Session) (tree : FileTree) (lines : List Text)
    (file : Option Text) (directory : Option Path) (rescan : Bool) {costs : List LineCost}
    (returned : (session.analyse tree lines file directory rescan).result = .ok costs)
    (config : Config) :
    (∀ withDetails, Writes (.fault (.numeral .tooLongToWrite))
      (costs.flatMap (shownNumbers config withDetails))
      (render config lines costs withDetails)) ∧
    (∀ entries, render config lines costs false = .ok entries →
      entries.length = lines.length ∧ costs.length = lines.length ∧
      ∀ (index : Nat) (text : Text) (cost : LineCost), lines[index]? = some text →
        costs[index]? = some cost →
        ∃ remark shown, Listing.remark config cost = .ok remark ∧
          entries[index]? = some shown ∧
          Placed (longest lines costs + 4) text remark shown) ∧
    ∀ output, render config lines costs true = .ok output →
      ∃ entries details, render config lines costs false = .ok entries ∧
        List.Forall₂ (fun cost detail => details? cost = .ok detail) costs details ∧
        output = (List.zipWith withDetail entries details).flatten := by
  obtain ⟨scanned, -, counted, -⟩ := analyse_eq_ok returned
  have order := inOrder_of_countLines counted
  have wide := order.width_eq_longest
  have short : costs.length ≤ lines.length := order.length.le
  refine ⟨render_writes config wide order.lists short, ?_, ?_⟩
  · intro entries made
    obtain ⟨length, each⟩ := order.placed ((render_false_eq_ok wide).1 made)
    exact ⟨length, order.length, each⟩
  · intro output made
    obtain ⟨pieces, shown, rfl⟩ := (render_eq_ok wide).1 made
    obtain ⟨entries, details, stands, detailed, rfl⟩ := exists_of_shownLines_true shown
    refine ⟨entries, details, (render_false_eq_ok wide).2 stands, ?_, rfl⟩
    rw [← List.map_snd_zip short, List.forall₂_map_left_iff]
    exact detailed

/-- A label, an instruction and a longer one: both remarks begin in one column. -/
theorem render_analysed_in_one_column :
    let lines : List Text := ["Main:", "    nop", "    jr Main"]
    let shown : List Text :=
      ["Main:", "    nop        1B | 1B | 4c | 4c", "    jr Main    2B | 3B | 12c | 16c"]
    ∃ costs, (({} : Session).analyse {} lines none none true).result = .ok costs ∧
      longest lines costs = 11 ∧ (render {} lines costs false).toOption = some shown ∧
      ∃ entries details, render {} lines costs false = .ok entries ∧
        List.Forall₂ (fun cost detail => details? cost = .ok detail) costs details ∧
        render {} lines costs true = .ok (List.zipWith withDetail entries details).flatten := by
  intro lines shown
  have known : (({} : Session).analyse {} lines none none true).result.toOption.map
      (fun costs => (longest lines costs, (render {} lines costs false).toOption,
        (render {} lines costs true).isOk)) = some (11, some shown, true) := by
    decide +kernel
  cases returned : (({} : Session).analyse {} lines none none true).result with
  | error fault =>
    rw [returned] at known
    cases known
  | ok costs =>
    rw [returned] at known
    simp only [Except.toOption, Option.map_some, Option.some.injEq, Prod.mk.injEq] at known
    obtain ⟨width, plain, detailed⟩ := known
    refine ⟨costs, rfl, width, plain, ?_⟩
    obtain ⟨-, -, inDetail⟩ := render_analysed {} {} lines none none true returned {}
    cases made : render {} lines costs true with
    | error cause =>
      rw [made] at detailed
      cases detailed
    | ok output =>
      obtain ⟨entries, details, plainly, explained, rfl⟩ := inDetail output made
      exact ⟨entries, details, plainly, explained, rfl⟩

/-! ## A number that cannot be shown -/

/-- Space is reserved by a numeral with 3572 hexadecimal digits, above the start point.  The
document is analysed, but no listing of it can be made. -/
theorem reservation_is_not_listed :
    ∃ costs, (({ startPoints := StartPoints.set .empty none 1 } : Session).analyse {}
        [Line.reservation 3572, " nop".toList] none none false).result = .ok costs ∧
      render {} [Line.reservation 3572, " nop".toList] costs false =
        .error (.fault (.numeral .tooLongToWrite)) := by
  have unscanned : ∀ (session : Session) (lines : List Text),
      session.analyse {} lines none none false = session.countLines lines none := fun _ _ => rfl
  have long : Numeral.canWrite (16 ^ 3572 - 1 : Nat) = false := by decide +kernel
  have short : Cost.canWrite ⟨1, 4⟩ = true := by decide +kernel
  obtain ⟨-, costs, -, gives, -, total, cost, member, known, bytes⟩ :=
    countLines_from_reservation 3572
  have counted := gives.returned (total ▸ short)
  have shown := bytes_mem_remarkNumbers known
  rw [unscanned]
  refine ⟨costs, counted, ?_⟩
  rw [bytes] at shown
  generalize ((16 ^ 3572 - 1 : Nat) : Int) = number at long shown
  have order := inOrder_of_countLines counted
  have writes := render_writes {} order.width_eq_longest order.lists order.length.le false
  have among : number ∈ costs.flatMap (shownNumbers {} false) :=
    List.mem_flatMap.2 ⟨cost, member, List.mem_append_left _ shown⟩
  generalize render {} [Line.reservation 3572, " nop".toList] costs false = listing at writes ⊢
  cases writes with
  | ok entries fit =>
    rw [fit number among] at long
    cases long
  | error _ => rfl

end Session

end Sm83Cost
