import Sm83Cost.Proofs.Config.Values
import Sm83Cost.Proofs.Cost.StartPoints
import Sm83Cost.Proofs.Scan.Keeping

/-!
# Costs that are not negative

Numbers of bytes and cycles are integers, and nothing in their types keeps them
from being negative.  They come from five places: the table, the operands of
data, the configuration, macros, and sums of these.  The table of the processor
lists no negative number, data counts its bytes, and a configuration that was
read from settings has refused negative counts (`Config.nonnegative_of_ofSettings`).
A macro sums its body (`nonnegative_scan`).

So no line of a document has a negative cost, and running totals never fall
(`analyse_nonnegative`).  A configuration that is overridden by hand, and a macro
that is registered by hand, may hold any numbers; the first is not read from
settings, and the second is forgotten when the document is scanned.
-/

namespace Sm83Cost

set_option autoImplicit false

/-! ## Cycles -/

/-- The most and the fewest cycles are known and in order, from zero on. -/
def Cycles.Nonnegative (cycles : Cycles) : Prop :=
  ∃ most fewest, cycles.most? = some most ∧ cycles.fewest? = some fewest ∧
    0 ≤ fewest ∧ fewest ≤ most

namespace Cycles.Nonnegative

variable {cycles : Cycles}

theorem of_bounds? (sound : cycles.Nonnegative) {most fewest : Int}
    (bounds : cycles.bounds? = some (most, fewest)) : 0 ≤ fewest ∧ fewest ≤ most := by
  obtain ⟨high, low, first, last, positive, order⟩ := sound
  obtain ⟨here, there⟩ := Cycles.bounds?_eq_some.1 bounds
  rw [first] at here
  rw [last] at there
  cases here
  cases there
  exact ⟨positive, order⟩

theorem of_most? (sound : cycles.Nonnegative) {number : Int}
    (found : cycles.most? = some number) : 0 ≤ number := by
  obtain ⟨most, fewest, first, -, positive, order⟩ := sound
  rw [first] at found
  cases found
  exact Int.le_trans positive order

theorem of_fewest? (sound : cycles.Nonnegative) {number : Int}
    (found : cycles.fewest? = some number) : 0 ≤ number := by
  obtain ⟨most, fewest, -, last, positive, -⟩ := sound
  rw [last] at found
  cases found
  exact positive

theorem ofTotals {most fewest : Int} (positive : 0 ≤ fewest) (order : fewest ≤ most) :
    (Cycles.ofTotals most fewest).Nonnegative :=
  ⟨most, fewest, most?_ofTotals most fewest, fewest?_ofTotals most fewest, positive, order⟩

end Cycles.Nonnegative

namespace Opcode.Table

/-- The table of the processor lists no negative number. -/
theorem nonnegative_of_standard {entry : Entry} (member : entry ∈ standard.held) :
    0 ≤ entry.size ∧ entry.cycles.Nonnegative := by
  have each : standard.held.all (fun entry =>
      decide (0 ≤ entry.size) && entry.cycles.fewest?.all fun number => decide (0 ≤ number)) =
        true := by
    decide +kernel
  have here := List.all_eq_true.1 each entry member
  rw [Bool.and_eq_true, decide_eq_true_iff] at here
  obtain ⟨size, cycles⟩ := here
  obtain ⟨most, fewest, order, first, last, -⟩ := Cycles.exists_of_falls (falls_of_standard member)
  rw [last, Option.all_some, decide_eq_true_iff] at cycles
  exact ⟨size, most, fewest, first, last, cycles, order⟩

/-- The cycles of an entry are not negative, whether branches are taken or not. -/
theorem nonnegative_of_select? {entry : Entry} (member : entry ∈ standard.held) {taken : Bool}
    {number : Int} (found : entry.cycles.select? taken = some number) : 0 ≤ number := by
  have sound := (nonnegative_of_standard member).2
  cases taken with
  | true => exact sound.of_most? found
  | false =>
    -- A branch that is not taken takes the fewest cycles.
    obtain ⟨most, fewest, -, -, last, untaken⟩ := Cycles.exists_of_falls (falls_of_standard member)
    apply sound.of_fewest?
    rw [last, ← untaken]
    exact found

end Opcode.Table

/-! ## Configurations -/

namespace Config

/-- No call that switches banks costs a negative number of bytes or cycles. -/
def Nonnegative (config : Config) : Prop :=
  ∀ kind, 0 ≤ (config.predefCost kind).1 ∧ 0 ≤ (config.predefCost kind).2

theorem nonnegative_default : Nonnegative {} := by
  intro kind
  cases kind <;> decide

/-- What is read as a count is not negative. -/
theorem nonnegative_of_countValue {key : Text} {value : Setting} {number : Int}
    (found : countValue key value = .ok number) : 0 ≤ number := by
  cases (countValue_eq_ok .predefBytes).1 found with
  | integer _ positive => exact positive
  | numeral => exact Int.natCast_nonneg _

namespace Nonnegative

variable {config : Config}

theorem setSwitch (sound : config.Nonnegative) (on : Bool) (which : Switch) :
    (config.setSwitch on which).Nonnegative := by
  intro kind
  have same : (config.setSwitch on which).predefCost kind = config.predefCost kind := by
    cases which <;> rfl
  rw [same]
  exact sound kind

theorem setCount (sound : config.Nonnegative) {value : Int} (positive : 0 ≤ value)
    (which : Count) : (config.setCount value which).Nonnegative := by
  intro kind
  obtain ⟨bytes, cycles⟩ := sound kind
  cases which <;> cases kind
  case predefBytes.call => exact ⟨positive, cycles⟩
  case predefCycles.call => exact ⟨bytes, positive⟩
  case predefJumpBytes.jump => exact ⟨positive, cycles⟩
  case predefJumpCycles.jump => exact ⟨bytes, positive⟩
  all_goals exact ⟨bytes, cycles⟩

/-- One more setting leaves the counts as they should be, if it is not refused. -/
theorem read (sound : config.Nonnegative) {setting : Text × Setting} {after : Config}
    (done : config.read setting = .ok after) : after.Nonnegative := by
  obtain ⟨change, found, made⟩ := Fault.bind_eq_ok.1 done
  cases made
  rw [changeOf] at found
  split at found
  · cases found
    exact sound
  · split at found
    · cases found
      exact sound.setSwitch _ _
    · cases found
  · obtain ⟨number, counted, made⟩ := Fault.bind_eq_ok.1 found
    cases made
    exact sound.setCount (nonnegative_of_countValue counted) _

theorem foldlM_read {settings : List (Text × Setting)} (sound : config.Nonnegative)
    {after : Config} (done : settings.foldlM Config.read config = .ok after) :
    after.Nonnegative := by
  induction settings generalizing config with
  | nil =>
    cases done
    exact sound
  | cons setting rest ih =>
    rw [List.foldlM_cons] at done
    obtain ⟨next, first, others⟩ := Fault.bind_eq_ok.1 done
    exact ih (sound.read first) others

end Nonnegative

/-- **A configuration that is read from settings has no negative count.** -/
theorem nonnegative_of_ofSettings {settings : Store Setting} {config : Config}
    (done : ofSettings settings = .ok config) : config.Nonnegative :=
  nonnegative_default.foldlM_read done

end Config

/-! ## Macros -/

/-- The macro has no negative number of bytes or cycles. -/
structure Macro.Nonnegative (definition : Macro) : Prop where
  size : 0 ≤ definition.size
  cycles : definition.cycles.Nonnegative

namespace Scan

/-- Instructions are looked up in the table of the processor, and no macro has a negative cost. -/
structure Nonnegative (scanner : Scanner) : Prop where
  table : scanner.table = .standard
  macros : EveryMacro Macro.Nonnegative scanner

/-- The line of a body adds no negative number. -/
structure BodyLine.Nonnegative (measured : BodyLine) : Prop where
  size : 0 ≤ measured.size
  fewest : 0 ≤ measured.fewest
  order : measured.fewest ≤ measured.most

theorem Nonnegative.measure {scanner : Scanner} (sound : Nonnegative scanner)
    {numbered : Nat × Text} {measured : BodyLine}
    (found : measure scanner numbered = .ok measured) : measured.Nonnegative := by
  rcases measure_cases found with
    ⟨size, most, fewest⟩ | ⟨nested, known, size, bounds⟩ | ⟨entry, listed, size, bounds⟩
  · refine ⟨size, ?_, ?_⟩
    · rw [fewest]
    · rw [most, fewest]
  · have called := sound.macros nested known
    obtain ⟨positive, order⟩ := called.cycles.of_bounds? bounds
    exact ⟨size ▸ called.size, positive, order⟩
  · rw [sound.table] at listed
    obtain ⟨positive, cycles⟩ := Opcode.Table.nonnegative_of_standard listed
    obtain ⟨fewest, order⟩ := cycles.of_bounds? bounds
    exact ⟨size ▸ positive, fewest, order⟩

/-- A macro whose lines add no negative number has no negative cost. -/
theorem Block.nonnegative_define (block : Block) (number : Nat) {body : List BodyLine}
    (each : ∀ measured ∈ body, measured.Nonnegative) :
    (block.define number body).Nonnegative := by
  have sums : 0 ≤ (body.map BodyLine.size).foldr (· + ·) 0 ∧
      0 ≤ (body.map BodyLine.fewest).foldr (· + ·) 0 ∧
      (body.map BodyLine.fewest).foldr (· + ·) 0 ≤ (body.map BodyLine.most).foldr (· + ·) 0 := by
    induction body with
    | nil => exact ⟨Int.le_refl 0, Int.le_refl 0, Int.le_refl 0⟩
    | cons measured rest ih =>
      have first := each measured List.mem_cons_self
      obtain ⟨sizes, fewest, order⟩ :=
        ih fun other member => each other (List.mem_cons_of_mem measured member)
      exact ⟨Int.add_nonneg first.size sizes, Int.add_nonneg first.fewest fewest,
        Int.add_le_add first.order order⟩
  exact ⟨sums.1, .ofTotals sums.2.1 sums.2.2⟩

theorem keeps_nonnegative : Keeps (fun _ => True) Nonnegative fun _ => Nonnegative where
  routines sound _ := ⟨sound.table, sound.macros⟩
  line sound _ _ := sound
  close := by
    intro block number progress sound _
    have each : ∀ line ∈ block.lines, ∀ measured, measure progress.scanner line = .ok measured →
        measured.Nonnegative := by
      intro line _ measured found
      exact sound.measure found
    have made := block.nonnegative_define number (forall_measureAll each)
    exact closeBlock_ends sound ⟨sound.table, sound.macros.register made⟩

/-- **With the table of the processor no macro has a negative cost after a scan**, also of one that
is given up. -/
theorem nonnegative_scan {scanner : Scanner} (table : scanner.table = .standard) (tree : FileTree)
    (lines : List Text) (directory : Option Path) (file : Option Text) :
    ScanEnds Nonnegative (fun _ => Nonnegative) (scanner.scan tree lines directory file) := by
  have begins : Nonnegative { scanner with macros := .empty } := ⟨table, everyMacro_empty _ _⟩
  exact keeps_nonnegative.scan (fun _ _ _ _ _ => trivial) (fun _ _ => trivial)
    (start_ends begins tree file)

end Scan

/-! ## Lines -/

namespace Cost

/-- Costs are compared part by part. -/
instance : LE Cost := ⟨fun first second =>
  first.bytes ≤ second.bytes ∧ first.cycles ≤ second.cycles⟩

theorem le_refl (cost : Cost) : cost ≤ cost := ⟨Int.le_refl _, Int.le_refl _⟩

theorem le_add_of_nonneg (total : Cost) {cost : Cost} (positive : 0 ≤ cost) :
    total ≤ total + cost :=
  ⟨Int.le_add_of_nonneg_right positive.1, Int.le_add_of_nonneg_right positive.2⟩

end Cost

namespace Session

section Lines

variable {session : Session} (table : session.table = .standard)
  (config : session.config.Nonnegative) (scanner : Scan.Nonnegative session.scanner)
include table config scanner

/-- No operation has a negative cost. -/
theorem nonnegative_of_costOf {line : Line} {operation : Operation} {cost : LineCost}
    (found : session.costOf line operation = .ok cost) : 0 ≤ cost.own := by
  rw [costOf] at found
  cases role : operation.role with
  | directive =>
    rw [role] at found
    cases found
    exact Cost.le_refl 0
  | data bytes =>
    rw [role] at found
    cases found
    exact ⟨Int.natCast_nonneg _, Int.le_refl 0⟩
  | predef kind =>
    rw [role] at found
    cases found
    exact config kind
  | macroCall =>
    simp only [role] at found
    cases known : session.scanner.macros.find? operation.mnemonic with
    | none =>
      rw [known] at found
      cases found
      exact Cost.le_refl 0
    | some definition =>
      rw [known] at found
      have called := scanner.macros.find? known
      obtain ⟨cycles, required, made⟩ := Fault.bind_eq_ok.1 found
      cases made
      rw [Fault.requireCycles_eq_ok] at required
      split at required
      · exact ⟨called.size, called.cycles.of_most? required⟩
      · exact ⟨called.size, called.cycles.of_fewest? required⟩
  | instruction =>
    rw [role] at found
    obtain ⟨entry, looked, found⟩ := Fault.bind_eq_ok.1 found
    rw [table, Fault.ofNumeral_eq_ok] at looked
    cases entry with
    | none =>
      cases found
      exact Cost.le_refl 0
    | some entry =>
      have listed := Opcode.Table.mem_held_of_lookup looked
      obtain ⟨cycles, required, made⟩ := Fault.bind_eq_ok.1 found
      cases made
      rw [Fault.requireCycles_eq_ok] at required
      exact ⟨(Opcode.Table.nonnegative_of_standard listed).1,
        Opcode.Table.nonnegative_of_select? listed required⟩

theorem nonnegative_of_resolve {line : Line} {cost : LineCost}
    (found : session.resolve line = .ok cost) : 0 ≤ cost.own := by
  rw [resolve] at found
  split at found
  · cases found
    exact Cost.le_refl 0
  · exact nonnegative_of_costOf table config scanner found

/-- No line of a document has a negative cost where it stands. -/
theorem nonnegative_of_visitLines (inside : Bool) (number : Nat) (lines : List Text) :
    ∀ cost ∈ (session.visitLines inside number lines).1.map Visit.cost, 0 ≤ cost.own := by
  induction lines generalizing inside number with
  | nil => exact List.forall_mem_nil _
  | cons text rest ih =>
    rw [visitLines]
    cases visited : session.visitLine inside number text with
    | error fault => exact List.forall_mem_nil _
    | ok step =>
      obtain ⟨visit, after⟩ := step
      have here : 0 ≤ visit.cost.own := by
        obtain ⟨line, -, -, shape⟩ := visitLine_eq_ok visited
        split at shape
        · subst shape
          exact Cost.le_refl 0
        · obtain ⟨cost, resolved, rfl⟩ := shape
          exact nonnegative_of_resolve table config scanner resolved
      exact List.forall_mem_cons.2 ⟨here, ih after (number + 1)⟩

end Lines

/-! ## Counting -/

/-- Counting changes no line's own cost. -/
theorem nonnegative_tally {start : Option Int} {number : Nat} {counting : Bool} {total : Cost}
    {costs : List LineCost} (positive : ∀ cost ∈ costs, 0 ≤ cost.own) :
    ∀ cost ∈ tally start number counting total costs, 0 ≤ cost.own := by
  intro cost member
  have kept : cost.uncounted ∈ costs.map LineCost.uncounted := by
    rw [← map_uncounted_tally start number counting total]
    exact List.mem_map_of_mem member
  obtain ⟨other, listed, same⟩ := List.mem_map.1 kept
  have own : other.uncounted.own = cost.uncounted.own := congrArg LineCost.own same
  show 0 ≤ cost.uncounted.own
  rw [← own]
  exact positive other listed

/-- **Running totals never fall**, from the total that is carried along on.  Before counting has
begun that total is nothing, and so is the running total of every line. -/
theorem isChain_running_tally {start : Option Int} {number : Nat} {counting : Bool} {total : Cost}
    {costs : List LineCost} (waiting : counting = false → total = 0)
    (fresh : ∀ cost ∈ costs, cost.uncounted = cost) (positive : ∀ cost ∈ costs, 0 ≤ cost.own) :
    List.IsChain (· ≤ ·)
      (total :: (tally start number counting total costs).map LineCost.running) := by
  induction costs generalizing number counting total with
  | nil => exact .singleton total
  | cons cost rest ih =>
    have fresh' := fun other member => fresh other (List.mem_cons_of_mem cost member)
    have positive' := fun other member => positive other (List.mem_cons_of_mem cost member)
    rw [tally]
    dsimp only
    split
    · rw [List.map_cons]
      refine .cons_cons ?_ (ih (fun asleep => Bool.noConfusion asleep) fresh' positive')
      show total ≤ if cost.known then total + cost.own else total
      split
      · exact Cost.le_add_of_nonneg total (positive cost List.mem_cons_self)
      · exact Cost.le_refl total
    · rename_i asleep
      have nothing : total = 0 :=
        waiting (Bool.or_eq_false_iff.1 (Bool.eq_false_iff.2 asleep)).1
      have running : cost.running = 0 := by
        rw [← fresh cost List.mem_cons_self]
        rfl
      rw [List.map_cons, running]
      subst nothing
      exact .cons_cons (Cost.le_refl 0) (ih (fun _ => rfl) fresh' positive')

/-! ## Documents -/

section Documents

variable (session : Session) (tree : FileTree) (lines : List Text) (file : Option Text)
  (directory : Option Path)

/-- Counting lines leaves the scanner as the scan has left it. -/
theorem scanner_analyse (rescan : Bool) :
    (session.analyse tree lines file directory rescan).session.scanner =
      (session.scannedFor tree lines file directory rescan).scanner := by
  have counting : ∀ scanned : Session,
      (scanned.countLines lines file).session.scanner = scanned.scanner := by
    intro scanned
    obtain ⟨results, after, -⟩ := countLines_session scanned lines file
    rw [after]
  cases rescan with
  | false => exact counting session
  | true =>
    simp only [analyse, scannedFor, if_true]
    cases (session.scan tree lines directory file).result with
    | error fault => rfl
    | ok done => exact counting (session.scan tree lines directory file).session

/-- What an analysis returns is what is counted behind its scan. -/
theorem countLines_of_analyse {rescan : Bool} {costs : List LineCost}
    (returned : (session.analyse tree lines file directory rescan).result = .ok costs) :
    ((session.scannedFor tree lines file directory rescan).countLines lines file).result =
      .ok costs := by
  cases rescan with
  | false =>
    rw [analyse, if_neg Bool.false_ne_true] at returned
    rw [scannedFor, if_neg Bool.false_ne_true]
    exact returned
  | true =>
    simp only [analyse, scannedFor, if_true] at returned ⊢
    cases outcome : (session.scan tree lines directory file).result with
    | error fault => simp [outcome] at returned
    | ok done => simpa [outcome] using returned

/-- After a scan with the table of the processor no macro has a negative cost. -/
theorem nonnegative_scannedFor (opcodes : session.scanner.table = .standard) :
    Scan.Nonnegative (session.scannedFor tree lines file directory true).scanner := by
  have ends := Scan.nonnegative_scan opcodes tree lines directory file
  rw [scannedFor, if_pos rfl, scan]
  generalize session.scanner.scan tree lines directory file = outcome at ends ⊢
  cases ends with
  | ok sound => exact sound
  | error sound => exact sound

/-- **No document has a negative cost.**  A session has a configuration that was read from settings
or from the environment, and uses the table of the processor.  When it scans and analyses a
document, no line that is returned has a negative number of bytes or cycles, and running totals,
which begin with nothing, never fall from one line to the next.  No macro that is known afterwards
has a negative number of bytes, and its fewest cycles lie between zero and its most. -/
theorem analyse_nonnegative
    (configured : (∃ settings, Config.ofSettings settings = .ok session.config) ∨
      ∃ environment, Config.ofEnvironment environment = .ok session.config)
    (table : session.table = .standard) (opcodes : session.scanner.table = .standard) :
    let outcome := session.analyse tree lines file directory true
    (∀ costs, outcome.result = .ok costs →
      (∀ cost ∈ costs, 0 ≤ cost.own) ∧
        List.IsChain (· ≤ ·) (0 :: costs.map LineCost.running)) ∧
    ∀ definition ∈ outcome.session.scanner.macros.values, definition.Nonnegative := by
  intro outcome
  have config : session.config.Nonnegative := by
    rcases configured with ⟨settings, read⟩ | ⟨environment, read⟩
    · exact Config.nonnegative_of_ofSettings read
    · exact Config.nonnegative_of_ofSettings read
  have scanner := nonnegative_scannedFor session tree lines file directory opcodes
  constructor
  · intro costs returned
    have counted := countLines_of_analyse session tree lines file directory returned
    -- The scan has changed nothing but the scanner.
    have settings : (session.scannedFor tree lines file directory true).table = .standard ∧
        (session.scannedFor tree lines file directory true).config = session.config := by
      rw [scannedFor, if_pos rfl, scan_session]
      exact ⟨table, rfl⟩
    generalize session.scannedFor tree lines file directory true = scanned
      at scanner counted settings
    obtain ⟨complete, made, -⟩ := countLines_eq_ok counted
    have fresh := uncounted_of_visitLines complete
    have positive := nonnegative_of_visitLines settings.1 (settings.2 ▸ config) scanner false 0 lines
    subst made
    exact ⟨nonnegative_tally positive, isChain_running_tally (fun _ => rfl) fresh positive⟩
  · intro definition member
    rw [scanner_analyse session tree lines file directory true] at member
    exact scanner.macros definition member

end Documents

/-- The counts are read from a text with blanks and from an integer.  A macro calls another one,
and data is counted by its items and by a number. -/
theorem analyse_nonnegative_nested :
    let settings : Store Setting :=
      ⟨[("predefCycles".toList, .text " 07 ".toList), ("predef_bytes".toList, .integer 0)]⟩
    let session : Session :=
      { config := { predefBytes := 0, predefCycles := 7 },
        startPoints := StartPoints.set .empty none 6 }
    let lines : List Text :=
      ["One: MACRO".toList, " jr nz, .on".toList, " ENDM".toList, "Two: MACRO".toList,
        " One".toList, " ENDM".toList, " Two".toList, " db \"\", 1".toList,
        " predef Far".toList, " ds $10".toList]
    Config.ofSettings settings = .ok session.config ∧
    ∃ costs, (session.analyse {} lines none none true).result = .ok costs ∧
      totals costs = { bytes := 19, cycles := 19 } ∧
      (∀ cost ∈ costs, 0 ≤ cost.own) ∧
      List.IsChain (· ≤ ·) (0 :: costs.map LineCost.running) := by
  intro settings session lines
  have read : Config.ofSettings settings = .ok session.config := rfl
  have totalled : (session.analyse {} lines none none true).result.map totals =
      .ok { bytes := 19, cycles := 19 } := by decide +kernel
  refine ⟨read, ?_⟩
  obtain ⟨lawful, -⟩ := analyse_nonnegative session {} lines none none (.inl ⟨settings, read⟩) rfl rfl
  cases returned : (session.analyse {} lines none none true).result with
  | error fault =>
    rw [returned] at totalled
    cases totalled
  | ok costs =>
    rw [returned] at totalled
    obtain ⟨positive, rising⟩ := lawful costs returned
    exact ⟨costs, rfl, Except.ok.inj totalled, positive, rising⟩

end Session

end Sm83Cost
