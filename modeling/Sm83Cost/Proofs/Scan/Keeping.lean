import Sm83Cost.Proofs.Opcode.Cycles
import Sm83Cost.Proofs.Scan.OpenedFiles

/-!
# What a scan keeps

A scan changes what it has found only where a macro ends and where a routine is
documented, and it is given up only where a macro ends or a line cannot be taken
apart.  So a property of scanners that survives these places holds at the end of
every scan, of one that is given up too (`Keeps.scan`).  How deep files are
included does not matter.

The first property of this kind is that the cycles of every macro fall.  With the
table of the processor it holds after every scan (`falling_scan`).
-/

namespace Sm83Cost

set_option autoImplicit false

/-- A computation succeeds with a value of one kind, or fails with a cause of another. -/
inductive Ends {ε α : Type} (failed : ε → Prop) (done : α → Prop) : Except ε α → Prop where
  | ok {value : α} (holds : done value) : Ends failed done (.ok value)
  | error {cause : ε} (holds : failed cause) : Ends failed done (.error cause)

theorem Ends.bind {ε α β : Type} {failed : ε → Prop} {done : α → Prop} {further : β → Prop}
    {first : Except ε α} (ends : Ends failed done first) {next : α → Except ε β}
    (follow : ∀ value, done value → Ends failed further (next value)) :
    Ends failed further (first >>= next) := by
  cases ends with
  | ok holds => exact follow _ holds
  | error holds => exact .error holds

namespace Scan

/-- The lines of the macro that is open. -/
def Pending.collected : Pending → List (Nat × Text)
  | .comments _ => []
  | .block opened => opened.lines

@[simp]
theorem collected_pendingAfter (comments : List Text) (line : Line) :
    (pendingAfter comments line).collected = [] := by
  unfold pendingAfter
  split <;> rfl

/-- The comments say something, and what they say is known of the routine. -/
structure SaidBy (comments : List Text) (routine : Routine) : Prop where
  spoken : (Comments.summarise comments).isSilent = false
  arguments : routine.arguments = (Comments.summarise comments).arguments
  description : routine.description = (Comments.summarise comments).description

/-- A property of scanners survives a scan of plain lines, which is given up only in certain
ways. -/
structure Keeps (plain : Text → Prop) (good : Scanner → Prop)
    (halts : Fault → Scanner → Prop) : Prop where
  routines : ∀ {scanner : Scanner} {routine : Routine} {comments : List Text}, good scanner →
    SaidBy comments routine → good { scanner with routines := scanner.routines.register routine }
  line : ∀ {scanner : Scanner} {text : Text} {number : Int} {error : Numeral.Error},
    good scanner → plain text → scanner.parseLine text number = .error error →
      halts (.numeral error) scanner
  close : ∀ {block : Block} {number : Nat} {progress : Progress}, good progress.scanner →
    (∀ line ∈ block.lines, plain line.2) →
      Ends (fun stopped => halts stopped.fault stopped.progress.scanner)
        (fun after => good after.scanner) (closeBlock block number progress)

/-- The scan ends well, or is given up in one of the ways it may be. -/
abbrev ScanEnds (good : Scanner → Prop) (halts : Fault → Scanner → Prop) :
    Except Stopped Progress → Prop :=
  Ends (fun stopped => halts stopped.fault stopped.progress.scanner) fun after => good after.scanner

/-- What holds whether a scan is given up or not holds of what it has found until then. -/
theorem good_of_scanEnds {good : Scanner → Prop} {outcome : Except Stopped Progress}
    (ends : ScanEnds good (fun _ => good) outcome) : good (lastProgress outcome).scanner := by
  cases ends with
  | ok holds => exact holds
  | error holds => exact holds

namespace Keeps

variable {plain : Text → Prop} {good : Scanner → Prop} {halts : Fault → Scanner → Prop}
  {tree : FileTree} {inner : LineScan} {directory : Option Path} {file : Option Text}
  {number : Nat} {progress : Progress}

theorem documentLabel (keeps : Keeps plain good halts) (begins : good progress.scanner)
    (name : Text) (comments : List Text) :
    good (documentLabel file name number comments progress).scanner := by
  unfold Scan.documentLabel
  dsimp only
  split
  · exact begins
  · rename_i spoken
    exact keeps.routines begins ⟨Bool.eq_false_iff.2 spoken, rfl, rfl⟩

theorem scanInclusion
    (within : ∀ path lines progress, tree.readLines path = .ok lines → good progress.scanner →
      ScanEnds good halts (inner (some path.parent) (some path.text) lines progress))
    (begins : good progress.scanner) (base : Path) (target : Text) :
    ScanEnds good halts (scanInclusion tree inner base target progress) := by
  cases found : resolve? tree base target with
  | none =>
    rw [scanInclusion_of_missing inner found]
    exact .ok begins
  | some path =>
    by_cases visited : tree.canonical path ∈ progress.visited
    · rw [scanInclusion_of_known inner found visited]
      exact .ok begins
    · obtain ⟨lines, read⟩ := readLines_of_resolve found
      rw [scanInclusion_of_fresh inner found visited, read]
      exact within path lines _ read begins

/-- What one line keeps. -/
theorem scanLine (keeps : Keeps plain good halts)
    (within : ∀ path lines progress, tree.readLines path = .ok lines → good progress.scanner →
      ScanEnds good halts (inner (some path.parent) (some path.text) lines progress))
    {text : Text} (plainText : plain text) {pending : Pending}
    (collected : ∀ line ∈ pending.collected, plain line.2) (begins : good progress.scanner) :
    Ends (fun stopped => halts stopped.fault stopped.progress.scanner)
      (fun after => (∀ line ∈ after.1.collected, plain line.2) ∧ good after.2.scanner)
      (scanLine tree inner directory file number text pending progress) := by
  have none : ∀ comments : List Text, ∀ line ∈ (Pending.comments comments).collected,
      plain line.2 := fun _ => List.forall_mem_nil _
  cases pending with
  | block block =>
    simp only [Scan.scanLine]
    split
    · exact (keeps.close begins collected).bind fun after sound => .ok ⟨none [], sound⟩
    · refine .ok ⟨fun line member => ?_, begins⟩
      rcases List.mem_append.1 member with earlier | last
      · exact collected line earlier
      · exact List.mem_singleton.1 last ▸ plainText
  | comments comments =>
    simp only [Scan.scanLine]
    split
    · split
      · exact .ok ⟨none [], begins⟩
      · exact (Keeps.scanInclusion within begins _ _).bind fun after sound => .ok ⟨none [], sound⟩
    · exact .ok ⟨List.forall_mem_nil _, begins⟩
    · exact .ok ⟨none [], keeps.documentLabel begins _ _⟩
    · split
      · refine .ok ⟨?_, begins⟩
        rw [collected_pendingAfter]
        exact List.forall_mem_nil _
      · rename_i failed
        exact .error (keeps.line begins plainText failed)

/-- What the lines of a document keep, by the number of lines. -/
theorem scanLines (keeps : Keeps plain good halts)
    (within : ∀ path lines progress, tree.readLines path = .ok lines → good progress.scanner →
      ScanEnds good halts (inner (some path.parent) (some path.text) lines progress))
    {lines : List Text} (document : ∀ text ∈ lines, plain text) {pending : Pending}
    (collected : ∀ line ∈ pending.collected, plain line.2) (begins : good progress.scanner) :
    ScanEnds good halts (scanLines tree inner directory file number lines pending progress) := by
  induction lines generalizing number pending progress with
  | nil =>
    refine .ok ?_
    cases pending <;> exact begins
  | cons text rest ih =>
    rw [Scan.scanLines]
    have first := document text List.mem_cons_self
    have others := fun other member => document other (List.mem_cons_of_mem text member)
    exact (keeps.scanLine within first collected begins).bind fun after kept =>
      ih others kept.1 kept.2

/-- What the files that are included keep, by the depth to which they are scanned. -/
theorem scanTo (keeps : Keeps plain good halts)
    (files : ∀ path lines, tree.readLines path = .ok lines → ∀ text ∈ lines, plain text)
    (depth : Nat) {lines : List Text} (document : ∀ text ∈ lines, plain text)
    (begins : good progress.scanner) :
    ScanEnds good halts (scanTo tree depth directory file lines progress) := by
  induction depth generalizing directory file lines progress with
  | zero => exact .ok begins
  | succ depth ih =>
    refine keeps.scanLines (fun path found progress read sound => ?_) document
      (List.forall_mem_nil _) begins
    exact ih (files path found read) sound

/-- **What survives every macro and every routine survives a scan** that begins with it. -/
theorem scan (keeps : Keeps plain good halts)
    (files : ∀ path lines, tree.readLines path = .ok lines → ∀ text ∈ lines, plain text)
    {lines : List Text} (document : ∀ text ∈ lines, plain text) {scanner : Scanner}
    (starts : ScanEnds good halts (scanner.start tree file)) :
    ScanEnds good halts (scanner.scan tree lines directory file) := by
  rw [Scanner.scan_eq]
  refine starts.bind fun progress sound => ?_
  exact keeps.scanLines (fun path found progress read sound =>
    keeps.scanTo files _ (files path found read) sound) document (List.forall_mem_nil _) sound

end Keeps

/-! ## Macros -/

/-- Every macro that is known has the property. -/
def EveryMacro (property : Macro → Prop) (scanner : Scanner) : Prop :=
  ∀ definition ∈ scanner.macros.values, property definition

theorem everyMacro_empty (property : Macro → Prop) (scanner : Scanner) :
    EveryMacro property { scanner with macros := .empty } :=
  fun _ member => absurd member List.not_mem_nil

theorem EveryMacro.find? {property : Macro → Prop} {scanner : Scanner}
    (every : EveryMacro property scanner) {name : Text} {definition : Macro}
    (found : scanner.macros.find? name = some definition) : property definition :=
  every definition (Store.mem_values_of_get? found)

/-- A macro with the property may be registered. -/
theorem EveryMacro.register {property : Macro → Prop} {scanner : Scanner}
    (every : EveryMacro property scanner) {definition : Macro} (holds : property definition) :
    EveryMacro property { scanner with macros := scanner.macros.register definition } := by
  intro other member
  rcases Store.eq_or_mem_of_mem_put member with rfl | known
  · exact holds
  · exact every other known

theorem mem_values_register (macros : Registry Macro) (definition : Macro) :
    definition ∈ (macros.register definition).values :=
  Store.mem_values_of_get? (Store.get?_put_self macros _ definition)

/-- How a macro can end: its body cannot be measured, or the macro is registered, and its cost is
noted if it can be written. -/
theorem closeBlock_cases (block : Block) (number : Nat) (progress : Progress) :
    (∃ fault, (measureAll progress.scanner block.lines).2 = some fault ∧
      ∃ records, closeBlock block number progress = .error ⟨fault, progress.note records⟩) ∨
    (measureAll progress.scanner block.lines).2 = none ∧ ∃ records,
      let definition := block.define number (measureAll progress.scanner block.lines).1
      closeBlock block number progress =
        match writable (definition.size :: definition.cycles.numbers) with
        | .error error => .error ⟨.numeral error, (progress.note records).addMacro definition⟩
        | .ok _ => .ok (((progress.note records).addMacro definition).note
            [.macroMeasured definition.name definition.size definition.cycles]) := by
  unfold closeBlock
  generalize measureAll progress.scanner block.lines = measured
  obtain ⟨body, fault⟩ := measured
  cases fault with
  | some fault => exact .inl ⟨fault, rfl, _, rfl⟩
  | none =>
    refine .inr ⟨rfl, body.filterMap BodyLine.record, ?_⟩
    cases written : writable ((block.define number body).size ::
      (block.define number body).cycles.numbers) <;> simp only [written]

/-- What holds of every line of a body that can be measured holds of a measured body. -/
theorem forall_measureAll {scanner : Scanner} {lines : List (Nat × Text)}
    {property : BodyLine → Prop}
    (each : ∀ line ∈ lines, ∀ measured, measure scanner line = .ok measured → property measured) :
    ∀ measured ∈ (measureAll scanner lines).1, property measured := by
  induction lines with
  | nil => exact fun _ member => absurd member List.not_mem_nil
  | cons line rest ih =>
    rw [measureAll]
    cases here : measure scanner line with
    | error fault => exact fun _ member => absurd member List.not_mem_nil
    | ok measured =>
      have others := ih fun other member => each other (List.mem_cons_of_mem line member)
      exact List.forall_mem_cons.2 ⟨each line List.mem_cons_self measured here, others⟩

/-- What a line of a body can add: bytes alone, or the cost of a macro that is known, or that of an
entry of the table. -/
theorem measure_cases {scanner : Scanner} {numbered : Nat × Text} {measured : BodyLine}
    (found : measure scanner numbered = .ok measured) :
    (0 ≤ measured.size ∧ measured.most = 0 ∧ measured.fewest = 0) ∨
    (∃ nested ∈ scanner.macros.values, measured.size = nested.size ∧
      nested.cycles.bounds? = some (measured.most, measured.fewest)) ∨
    ∃ entry ∈ scanner.table.held, measured.size = entry.size ∧
      entry.cycles.bounds? = some (measured.most, measured.fewest) := by
  rw [measure] at found
  obtain ⟨line, -, found⟩ := Fault.bind_eq_ok.1 found
  cases holds : line.operation with
  | none =>
    rw [holds] at found
    cases found
    exact .inl ⟨Int.le_refl 0, rfl, rfl⟩
  | some operation =>
    simp only [holds, measureOperation] at found
    split at found
    · cases found
      exact .inl ⟨Int.natCast_nonneg _, rfl, rfl⟩
    · cases found
      exact .inl ⟨Int.le_refl 0, rfl, rfl⟩
    · cases found
      exact .inl ⟨Int.le_refl 0, rfl, rfl⟩
    · split at found
      · rename_i nested known
        obtain ⟨bounds, required, made⟩ := Fault.bind_eq_ok.1 found
        cases made
        exact .inr (.inl ⟨nested, Store.mem_values_of_get? known, rfl,
          Fault.requireCycles_eq_ok.1 required⟩)
      · cases found
        exact .inl ⟨Int.le_refl 0, rfl, rfl⟩
    · obtain ⟨entry, looked, found⟩ := Fault.bind_eq_ok.1 found
      rw [Fault.ofNumeral_eq_ok] at looked
      cases entry with
      | none =>
        cases found
        exact .inl ⟨Int.le_refl 0, rfl, rfl⟩
      | some entry =>
        obtain ⟨bounds, required, made⟩ := Fault.bind_eq_ok.1 found
        cases made
        exact .inr (.inr ⟨entry, Opcode.Table.mem_held_of_lookup looked, rfl,
          Fault.requireCycles_eq_ok.1 required⟩)

/-- A property that holds before a macro ends, and with the macro registered, holds wherever the
scan goes on or is given up. -/
theorem closeBlock_ends {good : Scanner → Prop} {block : Block} {number : Nat}
    {progress : Progress} (sound : good progress.scanner)
    (registered : good { progress.scanner with
      macros := progress.scanner.macros.register
        (block.define number (measureAll progress.scanner block.lines).1) }) :
    ScanEnds good (fun _ => good) (closeBlock block number progress) := by
  rcases closeBlock_cases block number progress with
    ⟨fault, -, records, stopped⟩ | ⟨-, records, closed⟩
  · rw [stopped]
    exact .error sound
  · rw [closed]
    split
    · exact .error registered
    · exact .ok registered

/-- A scan begins without macros. -/
theorem start_ends {good : Scanner → Prop} {scanner : Scanner}
    (begins : good { scanner with macros := .empty }) (tree : FileTree) (file : Option Text) :
    ScanEnds good (fun _ => good) (scanner.start tree file) := by
  unfold Scanner.start
  split
  · exact .ok begins
  · split
    · exact .error begins
    · exact .ok begins

/-! ## Cycles that fall -/

/-- Instructions are looked up in the table of the processor, and the cycles of every macro fall. -/
structure Falling (scanner : Scanner) : Prop where
  table : scanner.table = .standard
  macros : EveryMacro (fun definition => definition.cycles.falls = true) scanner

theorem falling_of_bounds? {cycles : Cycles} (falls : cycles.falls = true) {most fewest : Int}
    (bounds : cycles.bounds? = some (most, fewest)) : fewest ≤ most := by
  obtain ⟨high, low, order, first, last, -⟩ := Cycles.exists_of_falls falls
  obtain ⟨here, there⟩ := Cycles.bounds?_eq_some.1 bounds
  rw [first] at here
  rw [last] at there
  cases here
  cases there
  exact order

/-- A line of a body adds no more to the fewest cycles than to the most. -/
theorem Falling.measure {scanner : Scanner} (falling : Falling scanner) {numbered : Nat × Text}
    {measured : BodyLine} (found : measure scanner numbered = .ok measured) :
    measured.fewest ≤ measured.most := by
  rcases measure_cases found with
    ⟨-, most, fewest⟩ | ⟨nested, known, -, bounds⟩ | ⟨entry, listed, -, bounds⟩
  · rw [most, fewest]
  · exact falling_of_bounds? (falling.macros nested known) bounds
  · rw [falling.table] at listed
    exact falling_of_bounds? (Opcode.Table.falls_of_standard listed) bounds

/-- If no line adds more to the fewest cycles than to the most, the cycles of the macro fall. -/
theorem Block.falls_define (block : Block) (number : Nat) {body : List BodyLine}
    (each : ∀ measured ∈ body, measured.fewest ≤ measured.most) :
    (block.define number body).cycles.falls = true := by
  refine Cycles.falls_ofTotals ?_
  induction body with
  | nil => exact Int.le_refl 0
  | cons measured rest ih =>
    have first := each measured List.mem_cons_self
    have others := ih fun other member => each other (List.mem_cons_of_mem measured member)
    exact Int.add_le_add first others

theorem Falling.define {scanner : Scanner} (falling : Falling scanner) (block : Block)
    (number : Nat) :
    (block.define number (measureAll scanner block.lines).1).cycles.falls = true := by
  have each : ∀ line ∈ block.lines, ∀ measured, Scan.measure scanner line = .ok measured →
      measured.fewest ≤ measured.most := fun _ _ _ found => falling.measure found
  exact block.falls_define number (forall_measureAll each)

theorem Falling.register {scanner : Scanner} (falling : Falling scanner) {definition : Macro}
    (falls : definition.cycles.falls = true) :
    Falling { scanner with macros := scanner.macros.register definition } :=
  ⟨falling.table, falling.macros.register falls⟩

/-- That cycles fall survives every macro and every routine. -/
theorem keeps_falling : Keeps (fun _ => True) Falling fun _ => Falling where
  routines sound _ := ⟨sound.table, sound.macros⟩
  line sound _ _ := sound
  close := by
    intro block number progress sound _
    exact closeBlock_ends sound (sound.register (sound.define block number))

/-- **With the table of the processor the cycles of every macro fall after a scan**, also of one
that is given up. -/
theorem falling_scan {scanner : Scanner} (table : scanner.table = .standard) (tree : FileTree)
    (lines : List Text) (directory : Option Path) (file : Option Text) :
    ScanEnds Falling (fun _ => Falling) (scanner.scan tree lines directory file) := by
  have begins : Falling { scanner with macros := .empty } := ⟨table, everyMacro_empty _ _⟩
  exact keeps_falling.scan (fun _ _ _ _ _ => trivial) (fun _ _ => trivial)
    (start_ends begins tree file)

end Scan

end Sm83Cost
