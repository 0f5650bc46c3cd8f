import Sm83Cost.Proofs.Cost.Configurations
import Sm83Cost.Proofs.Scan.Keeping

/-!
# Branches that are taken or not

Two sessions that differ only in what they assume of branches give a document the
same costs but for cycles, and where branches are not taken there are no more of
them (`analyse_untaken_no_slower`).  The totals of one may still be too long to be
written when those of the other are not.

With the table of the processor this comes down to cycles that fall: those of its
entries, and those of every macro that a scan finds, since a macro sums the cycles
of its body for both cases.  A macro that was registered by hand may list its
cycles in any order, but it is forgotten when the document is scanned.
-/

namespace Sm83Cost

set_option autoImplicit false

/-! ## Costs without more cycles -/

/-- The first cost has as many bytes as the second one and no more cycles. -/
structure Cost.NoSlower (low high : Cost) : Prop where
  bytes : low.bytes = high.bytes
  cycles : low.cycles ≤ high.cycles

namespace Cost.NoSlower

theorem refl (cost : Cost) : cost.NoSlower cost := ⟨rfl, Int.le_refl _⟩

theorem add {low high low' high' : Cost} (first : low.NoSlower high)
    (second : low'.NoSlower high') : (low + low').NoSlower (high + high') := by
  constructor
  · rw [Cost.bytes_add, Cost.bytes_add, first.bytes, second.bytes]
  · exact Int.add_le_add first.cycles second.cycles

end Cost.NoSlower

/-- The two costs are those of one line with the same origin and the same place in a count, and
the first one has no more cycles. -/
structure LineCost.NoSlower (low high : LineCost) : Prop where
  same : low.besidesCosts = high.besidesCosts
  own : low.own.NoSlower high.own
  running : low.running.NoSlower high.running

namespace LineCost.NoSlower

theorem refl (cost : LineCost) : cost.NoSlower cost := ⟨rfl, .refl _, .refl _⟩

variable {low high : LineCost}

theorem addTo (lines : low.NoSlower high) {total total' : Cost} (totals : total.NoSlower total') :
    (low.addTo total).NoSlower (high.addTo total') := by
  rw [LineCost.addTo, LineCost.addTo, known_eq lines.same]
  split
  · exact totals.add lines.own
  · exact totals

theorem countedAt (lines : low.NoSlower high) {total total' : Cost}
    (totals : total.NoSlower total') : (low.countedAt total).NoSlower (high.countedAt total') :=
  ⟨besidesCosts_countedAt lines.same total total', lines.own, totals⟩

theorem counted (lines : low.NoSlower high) : low.counted.NoSlower high.counted := by
  rw [counted_eq, counted_eq, known_eq lines.same, counting_eq lines.same]
  split
  · exact lines.own
  · exact .refl 0

/-- What holds line by line holds of the totals. -/
theorem totals {lows highs : List LineCost} (lines : List.Forall₂ LineCost.NoSlower lows highs) :
    (totals lows).NoSlower (totals highs) := by
  unfold Sm83Cost.totals
  induction lines with
  | nil => exact .refl 0
  | cons here _ ih =>
    rw [List.map_cons, List.map_cons, List.sum_cons, List.sum_cons]
    exact here.counted.add ih

end LineCost.NoSlower

namespace Session

/-- The session with an assumption on branches, and otherwise the same configuration. -/
def assuming (session : Session) (taken : Bool) : Session :=
  session.under { session.config with assumeBranchTaken := taken }

/-! ## One line -/

section Lines

variable {session : Session} (table : session.table = .standard)
  (falling : Scan.Falling session.scanner)
include table falling

/-- An operation takes no more cycles where branches are not taken. -/
theorem costOf_untaken (line : Line) (operation : Operation) :
    Parallel Eq LineCost.NoSlower ((session.assuming false).costOf line operation)
      ((session.assuming true).costOf line operation) := by
  rw [costOf, costOf]
  cases operation.role with
  | directive => exact .ok (.refl _)
  | data bytes => exact .ok (.refl _)
  | predef kind => cases kind <;> exact .ok (.refl _)
  | macroCall =>
    simp only [assuming, under]
    cases found : session.scanner.macros.find? operation.mnemonic with
    | none => exact .ok (.refl _)
    | some definition =>
      obtain ⟨most, fewest, order, first, last, -⟩ :=
        Cycles.exists_of_falls (falling.macros.find? found)
      simp only [Bool.false_eq_true, if_false, if_true, first, last]
      exact .ok ⟨rfl, ⟨rfl, order⟩, .refl _⟩
  | instruction =>
    simp only [assuming, under]
    cases looked : session.table.lookup operation.mnemonic operation.operands with
    | error error => exact .error rfl
    | ok entry =>
      cases entry with
      | none => exact .ok (.refl _)
      | some entry =>
        rw [table] at looked
        obtain ⟨most, fewest, order, first, -, untaken⟩ :=
          Cycles.exists_of_falls (Opcode.Table.falls_of_lookup looked)
        have high : entry.cycles.select? true = some most := first
        have low : entry.cycles.select? false = some fewest := untaken
        show Parallel Eq _
          (Fault.requireCycles (entry.cycles.select? false) >>= fun _ => _)
          (Fault.requireCycles (entry.cycles.select? true) >>= fun _ => _)
        rw [high, low]
        exact .ok ⟨rfl, ⟨rfl, order⟩, .refl _⟩

theorem resolve_untaken (line : Line) :
    Parallel Eq LineCost.NoSlower ((session.assuming false).resolve line)
      ((session.assuming true).resolve line) := by
  rw [resolve, resolve]
  cases line.operation with
  | none => exact .ok (.refl _)
  | some operation => exact costOf_untaken table falling line operation

end Lines

/-! ## Documents -/

/-- After a scan with the table of the processor the cycles of every macro fall. -/
theorem falling_scannedFor {session : Session} (opcodes : session.scanner.table = .standard)
    (tree : FileTree) (lines : List Text) (file : Option Text) (directory : Option Path) :
    Scan.Falling (session.scannedFor tree lines file directory true).scanner := by
  have ends := Scan.falling_scan opcodes tree lines directory file
  rw [scannedFor, if_pos rfl, scan]
  generalize session.scanner.scan tree lines directory file = outcome at ends ⊢
  cases ends with
  | ok falling => exact falling
  | error falling => exact falling

/-- **Assuming that branches are not taken changes nothing but cycles, and only lowers them.**  Two
sessions that use the table of the processor and differ in this assumption analyse a document.
Either both give up with the same fault, or the costs that they find agree line by line in
everything but cycles; the session that assumes branches not to be taken has no more cycles on any
line, in any running total and in total.  Each of them returns its costs exactly if their totals can
be written, so both return them if both totals can. -/
theorem analyse_untaken_no_slower (session : Session) (table : session.table = .standard)
    (opcodes : session.scanner.table = .standard) (tree : FileTree) (lines : List Text)
    (file : Option Text) (directory : Option Path) :
    let untaken := (session.assuming false).analyse tree lines file directory true
    let taken := (session.assuming true).analyse tree lines file directory true
    (∃ fault, untaken.result = .error fault ∧ taken.result = .error fault) ∨
      ∃ low high, Gives untaken file low ∧ Gives taken file high ∧
        ((totals low).canWrite = true → (totals high).canWrite = true →
          untaken.result = .ok low ∧ taken.result = .ok high) ∧
        List.Forall₂ LineCost.NoSlower low high ∧ (totals low).NoSlower (totals high) := by
  have settings : (session.scannedFor tree lines file directory true).table = .standard ∧
      (session.scannedFor tree lines file directory true).config = session.config := by
    rw [scannedFor, if_pos rfl, scan_session]
    exact ⟨table, rfl⟩
  have resolves := resolve_untaken settings.1 (falling_scannedFor opcodes tree lines file directory)
  simp only [assuming, settings.2] at resolves
  rcases analyse_alongside resolves fun line => .refl { line } with
    failed | ⟨costs, others, found, here, there⟩
  · exact .inl failed
  · have counted := tally_alongside Cost.NoSlower
      (fun lines totals => ⟨lines.addTo totals, lines.countedAt (lines.addTo totals)⟩)
      (session.startPoints.startOf? file) 0 (session.startPoints.startOf? file).isNone
      (.refl {}) found
    exact .inr ⟨_, _, here, there, here.both_returned there, counted,
      LineCost.NoSlower.totals counted⟩

/-- A macro with a relative jump, called twice, once before the start point, and a conditional
return. -/
theorem analyse_untaken_no_slower_in_macro :
    let session : Session := { startPoints := StartPoints.set .empty none 4 }
    let lines : List Text :=
      ["Spin: MACRO".toList, " jr nz, .again".toList, " ENDM".toList, " Spin".toList,
        " Spin".toList, " ret z".toList]
    ∃ low high,
      ((session.assuming false).analyse {} lines none none true).result = .ok low ∧
      ((session.assuming true).analyse {} lines none none true).result = .ok high ∧
      List.Forall₂ LineCost.NoSlower low high ∧
      totals low = { bytes := 3, cycles := 16 } ∧ totals high = { bytes := 3, cycles := 32 } := by
  intro session lines
  have slow : ((session.assuming true).analyse {} lines none none true).result.map totals =
      .ok { bytes := 3, cycles := 32 } := by decide +kernel
  have fast : ((session.assuming false).analyse {} lines none none true).result.map totals =
      .ok { bytes := 3, cycles := 16 } := by decide +kernel
  rcases analyse_untaken_no_slower session rfl rfl {} lines none none with
    ⟨fault, failed, -⟩ | ⟨low, high, here, there, -, found, -⟩
  · rw [failed] at fast
    cases fast
  · obtain ⟨returned, cycles⟩ := here.returned_of_map fast
    obtain ⟨returned', cycles'⟩ := there.returned_of_map slow
    exact ⟨low, high, returned, returned', found, cycles, cycles'⟩

/-- Calls that switch banks cost so much that the totals can just be written, unless the branch
behind the call is taken. -/
theorem taken_branch_gives_up :
    let session : Session := { config := { predefCycles := (Numeral.decimalBound - 12 : Nat) } }
    let lines : List Text := [" predef Foo".toList, " jr nz, x".toList]
    ((session.assuming false).analyse {} lines none none true).result.map totals =
        .ok { bytes := 10, cycles := (Numeral.decimalBound - 4 : Nat) } ∧
      ((session.assuming true).analyse {} lines none none true).result =
        .error (.numeral .tooLongToWrite) := by
  decide +kernel

end Session

end Sm83Cost
