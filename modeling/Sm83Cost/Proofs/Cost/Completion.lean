import Sm83Cost.Proofs.Cost.Configurations
import Sm83Cost.Proofs.Line.Numerals
import Sm83Cost.Proofs.Scan.Keeping

/-!
# What makes an analysis give up

A source in which no run of decimal digits is too long can be read: with the table
of the processor every line has a cost that can be looked up, known or not
(`Sound.exists_lineCost`), and every macro can be measured.

That does not make every analysis return.  Numbers are unbounded, and a number may
be reserved in hexadecimal that is too long to be written in decimal.  The cost of
each macro and the totals of a document are noted in the journal, and there the
analysis gives up.  `gives_up_only_in_writing` says that this is the only thing
that can happen, and exactly when it does.
-/

namespace Sm83Cost

set_option autoImplicit false

open Text (ShortNumerals)

/-! ## Scanning -/

namespace Scan

theorem exists_bounds? {cycles : Cycles} (falls : cycles.falls = true) :
    ∃ bounds, cycles.bounds? = some bounds := by
  obtain ⟨most, fewest, -, first, last, -⟩ := Cycles.exists_of_falls falls
  exact ⟨(most, fewest), Cycles.bounds?_eq_some.2 ⟨first, last⟩⟩

theorem measure_of_parse {scanner : Scanner} {numbered : Nat × Text} {line : Line}
    (parsed : scanner.parseLine numbered.2 numbered.1 = .ok line) :
    measure scanner numbered =
      line.operation.elim (.ok { line }) (measureOperation scanner line) := by
  rw [measure, parsed]
  obtain ⟨number, raw, label, operation, comment⟩ := line
  cases operation <;> rfl

/-- A line with short numerals can be measured. -/
theorem Falling.exists_measure {scanner : Scanner} (falling : Falling scanner)
    {numbered : Nat × Text} (short : ShortNumerals numbered.2) :
    ∃ measured, Scan.measure scanner numbered = .ok measured := by
  obtain ⟨line, parsed⟩ := exists_parse scanner.recognises numbered.1 short
  rw [measure_of_parse parsed]
  cases holds : line.operation with
  | none => exact ⟨_, rfl⟩
  | some operation =>
    rw [Option.elim_some, measureOperation]
    cases operation.role with
    | data bytes => exact ⟨_, rfl⟩
    | directive => exact ⟨_, rfl⟩
    | predef kind => exact ⟨_, rfl⟩
    | macroCall =>
      dsimp only
      cases found : scanner.macros.find? operation.mnemonic with
      | none => exact ⟨_, rfl⟩
      | some nested =>
        obtain ⟨bounds, known⟩ := exists_bounds? (falling.macros.find? found)
        simp only [known]
        exact ⟨_, rfl⟩
    | instruction =>
      obtain ⟨entry, looked⟩ := exists_lookup scanner.table operation.mnemonic
        fun operand member => short.part (Line.isInfix_operand parsed holds member)
      simp only [looked]
      cases entry with
      | none => exact ⟨_, rfl⟩
      | some entry =>
        rw [falling.table] at looked
        obtain ⟨bounds, known⟩ := exists_bounds? (Opcode.Table.falls_of_lookup looked)
        show ∃ measured, (Fault.requireCycles entry.cycles.bounds? >>= fun _ => _) = .ok measured
        rw [known]
        exact ⟨_, rfl⟩

theorem measureAll_complete {scanner : Scanner} {lines : List (Nat × Text)}
    (each : ∀ line ∈ lines, ∃ measured, measure scanner line = .ok measured) :
    (measureAll scanner lines).2 = none := by
  induction lines with
  | nil => rfl
  | cons line rest ih =>
    obtain ⟨measured, found⟩ := each line List.mem_cons_self
    rw [measureAll, found]
    exact ih fun other member => each other (List.mem_cons_of_mem line member)

/-- The cost of every macro can be written. -/
def AllWritten (scanner : Scanner) : Prop :=
  EveryMacro (fun definition => definition.canWrite = true) scanner

/-- That all macros can be written survives a scan of lines with short numerals, and the scan is
given up only at a macro that cannot. -/
theorem keeps_written :
    Keeps ShortNumerals (fun scanner => Falling scanner ∧ AllWritten scanner)
      fun fault scanner =>
        fault = .numeral .tooLongToWrite ∧ Falling scanner ∧ ¬ AllWritten scanner where
  routines sound _ := ⟨⟨sound.1.table, sound.1.macros⟩, sound.2⟩
  line := by
    intro scanner text number error sound short failed
    obtain ⟨line, parsed⟩ := exists_parse scanner.recognises number short
    cases failed.symm.trans parsed
  close := by
    intro block number progress sound short
    have complete := measureAll_complete fun line member =>
      sound.1.exists_measure (short line member)
    rcases closeBlock_cases block number progress with
      ⟨fault, failed, -⟩ | ⟨-, records, closed⟩
    · rw [complete] at failed
      cases failed
    · have falling := sound.1.register (sound.1.define block number)
      rw [closed, Macro.writable_eq]
      generalize block.define number (measureAll progress.scanner block.lines).1 = definition
        at falling ⊢
      cases written : definition.canWrite with
      | true => exact .ok ⟨falling, sound.2.register written⟩
      | false =>
        refine .error ⟨rfl, falling, fun all => ?_⟩
        have known := mem_values_register progress.scanner.macros definition
        exact Bool.false_ne_true (written.symm.trans (all definition known))

end Scan

/-- What can be read is a file of the tree. -/
theorem shortNumerals_of_readLines {tree : FileTree}
    (files : ∀ route bytes, (route, .file bytes) ∈ tree.nodes →
      ∀ text ∈ Text.lines (Text.Utf8.decode bytes), ShortNumerals text)
    {path : Path} {found : List Text} (read : tree.readLines path = .ok found) :
    ∀ text ∈ found, ShortNumerals text := by
  obtain ⟨route, bytes, -, node, rfl⟩ := FileTree.readLines_eq_ok.1 read
  exact files route bytes (FileTree.mem_nodes_of_node? node)

theorem Text.mem_of_mem_splitWhere {p : Char → Bool} {text piece : Text}
    (member : piece ∈ Text.splitWhere p text) : piece ⊆ text := by
  induction text generalizing piece with
  | nil =>
    rw [Text.splitWhere, List.mem_singleton] at member
    exact member ▸ List.Subset.refl []
  | cons c rest ih =>
    rw [Text.splitWhere] at member
    split at member
    · rcases List.mem_cons.1 member with rfl | later
      · exact List.nil_subset _
      · exact List.subset_cons_of_subset c (ih later)
    · cases pieces : Text.splitWhere p rest with
      | nil => exact absurd pieces (Text.splitWhere_ne_nil p rest)
      | cons first others =>
        rw [pieces] at member ih
        rcases List.mem_cons.1 member with rfl | later
        · exact List.cons_subset_cons c (ih List.mem_cons_self)
        · exact List.subset_cons_of_subset c (ih (List.mem_cons_of_mem first later))

namespace Scan

/-- The scan of a document whose name has no character that names cannot have begins without
macros. -/
theorem exists_start (scanner : Scanner) (tree : FileTree) {file : Option Text}
    (named : ∀ name ∈ file, Char.ofNat 0 ∉ name) :
    ∃ progress, scanner.start tree file = .ok progress ∧
      progress.scanner = { scanner with macros := .empty } := by
  cases file with
  | none => exact ⟨_, rfl, rfl⟩
  | some name =>
    have usable : (Path.ofText name).parts.any (·.contains (Char.ofNat 0)) = false := by
      rw [List.any_eq_false]
      intro part member contains
      have piece := (List.mem_filter.1 member).1
      exact named name rfl (Text.mem_of_mem_splitWhere piece (List.contains_iff_mem.1 contains))
    let cleared : Progress := { scanner := { scanner with macros := .empty } }
    refine ⟨cleared.visit (tree.canonical (Path.ofText name)), ?_, rfl⟩
    simp only [Scanner.start, Option.map_some, usable]
    rfl

/-- How the scan of a source with short numerals ends. -/
theorem written_scan {scanner : Scanner} (table : scanner.table = .standard) {tree : FileTree}
    {lines : List Text} (directory : Option Path) {file : Option Text}
    (named : ∀ name ∈ file, Char.ofNat 0 ∉ name) (document : ∀ text ∈ lines, ShortNumerals text)
    (files : ∀ path found, tree.readLines path = .ok found → ∀ text ∈ found, ShortNumerals text) :
    ScanEnds (fun scanner => Falling scanner ∧ AllWritten scanner)
      (fun fault scanner =>
        fault = .numeral .tooLongToWrite ∧ Falling scanner ∧ ¬ AllWritten scanner)
      (scanner.scan tree lines directory file) := by
  refine keeps_written.scan files document ?_
  obtain ⟨progress, started, begins⟩ := exists_start scanner tree named
  rw [started]
  refine .ok ?_
  rw [begins]
  exact ⟨⟨table, everyMacro_empty _ _⟩, everyMacro_empty _ _⟩

theorem Falling.lists {scanner : Scanner} (falling : Falling scanner) :
    EveryMacro (fun definition => definition.cycles.numbers ≠ []) scanner := by
  intro definition member none
  obtain ⟨most, -, -, first, -⟩ := Cycles.exists_of_falls (falling.macros definition member)
  rw [Cycles.most?, none] at first
  cases first

end Scan

namespace Session

/-! ## Lines -/

/-- The session uses the table of the processor, and every macro that it knows lists its cycles.
So does a new session, and one after any scan. -/
structure Sound (session : Session) : Prop where
  table : session.table = .standard
  opcodes : session.scanner.table = .standard
  macros : Scan.EveryMacro (fun definition => definition.cycles.numbers ≠ []) session.scanner

namespace Sound

variable {session : Session} (sound : session.Sound)
include sound

/-- An operation whose operands have short numerals has a cost. -/
theorem exists_costOf (line : Line) {operation : Operation}
    (short : ∀ operand ∈ operation.operands, ShortNumerals operand) :
    ∃ cost, session.costOf line operation = .ok cost := by
  rw [costOf]
  cases operation.role with
  | directive => exact ⟨_, rfl⟩
  | data bytes => exact ⟨_, rfl⟩
  | predef kind => exact ⟨_, rfl⟩
  | macroCall =>
    dsimp only
    cases found : session.scanner.macros.find? operation.mnemonic with
    | none => exact ⟨_, rfl⟩
    | some definition =>
      have listed := sound.macros.find? found
      have most : ∃ cycles, definition.cycles.most? = some cycles :=
        ⟨_, List.head?_eq_some_head listed⟩
      have fewest : ∃ cycles, definition.cycles.fewest? = some cycles :=
        ⟨_, List.getLast?_eq_some_getLast listed⟩
      obtain ⟨high, first⟩ := most
      obtain ⟨low, last⟩ := fewest
      simp only [first, last]
      cases session.config.assumeBranchTaken <;> exact ⟨_, rfl⟩
  | instruction =>
    obtain ⟨entry, looked⟩ := exists_lookup session.table operation.mnemonic short
    simp only [looked]
    cases entry with
    | none => exact ⟨_, rfl⟩
    | some entry =>
      rw [sound.table] at looked
      obtain ⟨most, fewest, -, first, -, untaken⟩ :=
        Cycles.exists_of_falls (Opcode.Table.falls_of_lookup looked)
      show ∃ cost, (Fault.requireCycles (entry.cycles.select? session.config.assumeBranchTaken) >>=
        fun _ => _) = .ok cost
      cases session.config.assumeBranchTaken with
      | true =>
        have high : entry.cycles.select? true = some most := first
        rw [high]
        exact ⟨_, rfl⟩
      | false =>
        have low : entry.cycles.select? false = some fewest := untaken
        rw [low]
        exact ⟨_, rfl⟩

theorem exists_resolve {text : Text} {number : Int} {line : Line} (short : ShortNumerals text)
    (parsed : session.scanner.parseLine text number = .ok line) :
    ∃ cost, session.resolve line = .ok cost := by
  rw [resolve]
  cases holds : line.operation with
  | none => exact ⟨_, rfl⟩
  | some operation =>
    exact sound.exists_costOf line fun operand member =>
      short.part (Line.isInfix_operand parsed holds member)

/-- A line with short numerals has a cost, known or not. -/
theorem exists_lineCost {text : Text} (short : ShortNumerals text) (number : Int) :
    ∃ cost, session.lineCost text number = .ok cost := by
  obtain ⟨line, parsed⟩ := exists_parse session.scanner.recognises number short
  obtain ⟨cost, resolved⟩ := sound.exists_resolve short parsed
  refine ⟨cost, Fault.bind_eq_ok.2 ⟨line, ?_, resolved⟩⟩
  exact Fault.ofNumeral_eq_ok.2 parsed

theorem exists_visitLine {text : Text} (short : ShortNumerals text) (inside : Bool)
    (number : Nat) : ∃ visited, session.visitLine inside number text = .ok visited := by
  obtain ⟨line, parsed⟩ := exists_parse session.scanner.recognises number short
  obtain ⟨cost, resolved⟩ := sound.exists_resolve short parsed
  have read : Fault.ofNumeral (session.scanner.parseLine text number) = .ok line :=
    Fault.ofNumeral_eq_ok.2 parsed
  simp only [visitLine, read]
  show ∃ visited, (if inside || holds "MACRO" line then _ else _) = Except.ok visited
  split
  · exact ⟨_, rfl⟩
  · rw [resolved]
    exact ⟨_, rfl⟩

/-- All lines of a document with short numerals are visited. -/
theorem visitLines_complete {lines : List Text} (document : ∀ text ∈ lines, ShortNumerals text)
    (inside : Bool) (number : Nat) : (session.visitLines inside number lines).2 = none := by
  induction lines generalizing inside number with
  | nil => rfl
  | cons text rest ih =>
    obtain ⟨visited, done⟩ :=
      sound.exists_visitLine (document text List.mem_cons_self) inside number
    rw [visitLines, done]
    exact ih (fun other member => document other (List.mem_cons_of_mem text member)) _ _

end Sound

/-! ## Documents -/

section Documents

variable {session : Session} (sound : session.Sound) {tree : FileTree} {lines : List Text}
  {file : Option Text} (directory : Option Path)
  (named : ∀ name ∈ file, Char.ofNat 0 ∉ name)
  (document : ∀ text ∈ lines, ShortNumerals text)
  (files : ∀ path found, tree.readLines path = .ok found → ∀ text ∈ found, ShortNumerals text)

include sound document

/-- Counting the lines of a document with short numerals gives costs, which are returned if their
totals can be written. -/
theorem countLines_ends (file : Option Text) :
    (session.countLines lines file).session.Sound ∧
      ((∃ costs, (session.countLines lines file).result = .ok costs ∧
          (totals costs).canWrite = true) ∨
        (session.countLines lines file).result = .error (.numeral .tooLongToWrite) ∧
          ∃ costs, (session.countLines lines file).session.resultOf? file = some costs ∧
            (totals costs).canWrite = false) := by
  have gives : Gives (session.countLines lines file) file _ :=
    countLines_gives (sound.visitLines_complete document false 0)
  generalize tally _ _ _ _ _ = costs at gives
  refine ⟨?_, ?_⟩
  · obtain ⟨results, counted, -⟩ := countLines_session session lines file
    rw [counted]
    exact ⟨sound.table, sound.opcodes, sound.macros⟩
  · cases written : (totals costs).canWrite with
    | true => exact .inl ⟨costs, gives.returned written, written⟩
    | false => exact .inr ⟨gives.givenUp written, costs, gives.kept, written⟩

include named files

/-- The scan of a source with short numerals succeeds if all macros that it finds can be written,
and otherwise is given up at one that cannot. -/
theorem scan_ends :
    (session.scan tree lines directory file).session.Sound ∧
      ((session.scan tree lines directory file).result = .ok () ∧
          Scan.AllWritten (session.scan tree lines directory file).session.scanner ∨
        (session.scan tree lines directory file).result = .error (.numeral .tooLongToWrite) ∧
          ¬ Scan.AllWritten (session.scan tree lines directory file).session.scanner) := by
  have ends := Scan.written_scan sound.opcodes directory named document files
  unfold scan
  generalize session.scanner.scan tree lines directory file = outcome at ends ⊢
  cases ends with
  | ok holds => exact ⟨⟨sound.table, holds.1.table, holds.1.lists⟩, .inl ⟨rfl, holds.2⟩⟩
  | @error stopped holds =>
    obtain ⟨fault, falling, unwritten⟩ := holds
    exact ⟨⟨sound.table, falling.table, falling.lists⟩,
      .inr ⟨congrArg Except.error fault, unwritten⟩⟩

/-- An analysis of such a source returns a result if what it notes can be written. -/
theorem analyse_ends (rescan : Bool) :
    (session.analyse tree lines file directory rescan).session.Sound ∧
      ((∃ costs, (session.analyse tree lines file directory rescan).result = .ok costs ∧
          (totals costs).canWrite = true ∧
          (rescan = true →
            Scan.AllWritten (session.analyse tree lines file directory rescan).session.scanner)) ∨
        (session.analyse tree lines file directory rescan).result =
            .error (.numeral .tooLongToWrite) ∧
          (rescan = true ∧ ¬ Scan.AllWritten
              (session.analyse tree lines file directory rescan).session.scanner ∨
            ∃ costs, (session.analyse tree lines file directory rescan).session.resultOf? file =
                some costs ∧ (totals costs).canWrite = false)) := by
  cases rescan with
  | false =>
    obtain ⟨later, ⟨costs, returned, written⟩ | ⟨failed, kept⟩⟩ :=
      countLines_ends sound document file
    · exact ⟨later, .inl ⟨costs, returned, written, nofun⟩⟩
    · exact ⟨later, .inr ⟨failed, .inr kept⟩⟩
  | true =>
    obtain ⟨later, outcome⟩ := scan_ends sound directory named document files
    simp only [analyse, if_true]
    generalize session.scan tree lines directory file = scanned at later outcome ⊢
    rcases outcome with ⟨done, written⟩ | ⟨failed, unwritten⟩
    · have scanner : (scanned.session.countLines lines file).session.scanner =
          scanned.session.scanner := by
        obtain ⟨results, counted, -⟩ := countLines_session scanned.session lines file
        rw [counted]
      rw [done]
      dsimp only
      rw [scanner]
      obtain ⟨last, ⟨costs, returned, shown⟩ | ⟨failed, kept⟩⟩ :=
        countLines_ends later document file
      · exact ⟨last, .inl ⟨costs, returned, shown, fun _ => written⟩⟩
      · exact ⟨last, .inr ⟨failed, .inr kept⟩⟩
    · rw [failed]
      exact ⟨later, .inr ⟨rfl, .inl ⟨trivial, unwritten⟩⟩⟩

end Documents

/-- **A source with short numerals makes an analysis give up only where a number is to be noted
that is too long to be written.**  The session uses the table of the processor, under any
configuration, and no run of decimal digits is too long on any line of the document or of a file of
the tree.  Then every such line has a cost, before and after a scan or an analysis.  A scan succeeds
exactly if the cost of every macro that it finds can be written.  An analysis returns a result
exactly if, besides, its totals can be written; if only they cannot, the result is kept all the
same. -/
theorem gives_up_only_in_writing {session : Session} (sound : session.Sound) {tree : FileTree}
    {lines : List Text} {file : Option Text} (directory : Option Path)
    (named : ∀ name ∈ file, Char.ofNat 0 ∉ name)
    (document : ∀ text ∈ lines, ShortNumerals text)
    (files : ∀ route bytes, (route, .file bytes) ∈ tree.nodes →
      ∀ text ∈ Text.lines (Text.Utf8.decode bytes), ShortNumerals text)
    (rescan : Bool) :
    let scanned := session.scan tree lines directory file
    let analysed := session.analyse tree lines file directory rescan
    (∀ state ∈ [session, scanned.session, analysed.session], state.Sound ∧
      ∀ text, ShortNumerals text → ∀ number, ∃ cost, state.lineCost text number = .ok cost) ∧
    (scanned.result = .ok () ∧ Scan.AllWritten scanned.session.scanner ∨
      scanned.result = .error (.numeral .tooLongToWrite) ∧
        ¬ Scan.AllWritten scanned.session.scanner) ∧
    ((∃ costs, analysed.result = .ok costs ∧ (totals costs).canWrite = true ∧
        (rescan = true → Scan.AllWritten analysed.session.scanner)) ∨
      analysed.result = .error (.numeral .tooLongToWrite) ∧
        (rescan = true ∧ ¬ Scan.AllWritten analysed.session.scanner ∨
          ∃ costs, analysed.session.resultOf? file = some costs ∧
            (totals costs).canWrite = false)) := by
  have readable : ∀ path found, tree.readLines path = .ok found →
      ∀ text ∈ found, ShortNumerals text := fun _ _ => shortNumerals_of_readLines files
  obtain ⟨later, outcome⟩ := scan_ends sound directory named document readable
  obtain ⟨last, ending⟩ := analyse_ends sound directory named document readable rescan
  refine ⟨?_, outcome, ending⟩
  intro state member
  have holds : state.Sound := by
    rcases List.mem_cons.1 member with rfl | member
    · exact sound
    · rcases List.mem_cons.1 member with rfl | member
      · exact later
      · exact List.mem_singleton.1 member ▸ last
  exact ⟨holds, fun text short number => holds.exists_lineCost short number⟩

/-- Brackets and quotes that do not match, numbers that are out of range and a byte that is no text,
in a document and in a file that it includes: all of it is read, and the analysis returns. -/
theorem gives_up_only_in_writing_malformed :
    let bytes : List UInt8 := "Two: MACRO\n jr nz, x\n ds (((\n bit 9, \"'[\nENDM\n".toList.map
      (fun c => c.toNat.toUInt8) ++ [255]
    let tree : FileTree := { nodes := [(["a.inc".toList], .file bytes)] }
    let lines : List Text :=
      ["INCLUDE \"a.inc\"".toList, " two )".toList, " rst 99999".toList, " ds $,".toList,
        " ld a, ]] ,, 'x".toList]
    Scan.AllWritten (({} : Session).analyse tree lines (some "main.asm") (some {})
        true).session.scanner ∧
      ∃ costs, (({} : Session).analyse tree lines (some "main.asm") (some {}) true).result =
        .ok costs ∧ (totals costs).canWrite = true := by
  intro bytes tree lines
  have sound : ({} : Session).Sound := ⟨rfl, rfl, Scan.everyMacro_empty _ {}⟩
  have few : ∀ texts : List Text, texts.all (fun text => decide (text.length ≤ 40)) = true →
      ∀ text ∈ texts, ShortNumerals text := by
    intro texts all text member
    have length := of_decide_eq_true (List.all_eq_true.1 all text member)
    refine Text.shortNumerals_of_length_le (length.trans ?_)
    decide
  have document : ∀ text ∈ lines, ShortNumerals text := few lines (by decide +kernel)
  have files : ∀ route bytes, (route, .file bytes) ∈ tree.nodes →
      ∀ text ∈ Text.lines (Text.Utf8.decode bytes), ShortNumerals text := by
    intro route found member
    cases List.mem_singleton.1 member
    exact few _ (by decide +kernel)
  have named : ∀ name ∈ (some "main.asm" : Option Text), Char.ofNat 0 ∉ name := by
    rintro name ⟨⟩
    decide
  have succeeds : (({} : Session).analyse tree lines (some "main.asm") (some {})
      true).result.isOk = true := by decide +kernel
  obtain ⟨-, -, ⟨costs, returned, written, macros⟩ | ⟨failed, -⟩⟩ :=
    gives_up_only_in_writing sound (some {}) named document files true
  · exact ⟨macros rfl, costs, returned, written⟩
  · rw [failed] at succeeds
    cases succeeds

/-! ## A number that cannot be written -/

/-- A line that reserves space is found to have that many bytes. -/
theorem visitLine_reservation (number count : Nat) :
    ∃ cost, ({} : Session).visitLine false number (Line.reservation count) =
        .ok (.resolved cost, false) ∧
      cost.known = true ∧ cost.own = { bytes := (16 ^ count - 1 : Nat) } := by
  have parsed : ({} : Session).scanner.parseLine (Line.reservation count) number = .ok _ :=
    Line.parse_reservation _ number count
  rw [visitLine, parsed]
  exact ⟨_, rfl, rfl, rfl⟩

/-- A line that reserves space is counted with that many bytes. -/
theorem countLines_reservation (count : Nat) :
    ∃ costs, Gives (({} : Session).countLines [Line.reservation count] none) none costs ∧
      totals costs = { bytes := (16 ^ count - 1 : Nat) } := by
  obtain ⟨cost, found, known, own⟩ := visitLine_reservation 0 count
  have complete : (({} : Session).visitLines false 0 [Line.reservation count]).2 = none := by
    rw [visitLines, found]
    rfl
  refine ⟨_, countLines_gives complete, ?_⟩
  rw [visitLines, found]
  show totals [cost.countedAt _] = _
  rw [totals, List.map_singleton, List.sum_singleton, LineCost.counted_eq]
  show (if true && cost.known then cost.own else 0) = _
  rw [known, own]
  rfl

/-- What is found on a line that reserves space, and on an instruction behind it. -/
theorem visitLines_reservation (count : Nat) :
    let visited := ({} : Session).visitLines false 0 [Line.reservation count, " nop".toList]
    ∃ reserves executes : LineCost,
      visited.1.map Visit.cost = [reserves, executes] ∧ visited.2 = none ∧
      reserves.known = true ∧ reserves.own = { bytes := (16 ^ count - 1 : Nat) } ∧
      executes.known = true ∧ executes.own = ⟨1, 4⟩ := by
  obtain ⟨reserves, found, known, own⟩ := visitLine_reservation 0 count
  have behind : let visited := ({} : Session).visitLines false 1 [" nop".toList]
      visited.1.map (fun visit => (visit.cost.known, visit.cost.own)) = [(true, ⟨1, 4⟩)] ∧
        visited.2 = none := by
    decide +kernel
  rw [visitLines, found]
  dsimp only
  generalize ({} : Session).visitLines false (0 + 1) [" nop".toList] = visited at behind ⊢
  obtain ⟨visits, fault⟩ := visited
  obtain ⟨each, rfl⟩ := behind
  obtain ⟨visit, rfl, cost⟩ := List.map_eq_singleton_iff.1 each
  obtain ⟨known', own'⟩ := Prod.mk.inj cost
  exact ⟨reserves, visit.cost, rfl, rfl, known, own, known', own'⟩

/-- A macro that reserves more space than can be written is measured, but its end makes the scan
give up. -/
theorem closeBlock_reservation (name : Text) (start number finish : Nat)
    (progress : Scan.Progress) {count : Nat}
    (long : Numeral.canWrite (16 ^ count - 1 : Nat) = false) :
    ∃ after,
      Scan.closeBlock ⟨name, start, [(number, Line.reservation count)]⟩ finish progress =
        .error ⟨.numeral .tooLongToWrite, after⟩ := by
  have measured : ∃ line,
      Scan.measureAll progress.scanner [(number, Line.reservation count)] =
        ([{ line, size := (16 ^ count - 1 : Nat) }], none) := by
    rw [Scan.measureAll, Scan.measure, Scanner.parseLine, Line.parse_reservation]
    exact ⟨_, rfl⟩
  obtain ⟨line, measured⟩ := measured
  rcases Scan.closeBlock_cases ⟨name, start, [(number, Line.reservation count)]⟩ finish progress
    with ⟨fault, failed, -⟩ | ⟨-, records, closed⟩
  · rw [measured] at failed
    cases failed
  · rw [closed, Macro.writable_eq, measured]
    have unwritten : Macro.canWrite
        (Scan.Block.define ⟨name, start, [(number, Line.reservation count)]⟩ finish
          [{ line, size := (16 ^ count - 1 : Nat) }]) = false := by
      rw [Macro.canWrite, List.all_cons, Scan.Block.define]
      dsimp only [List.map, List.foldr]
      rw [Int.add_zero, long, Bool.false_and]
    rw [unwritten]
    exact ⟨_, rfl⟩

theorem scan_reservation {count : Nat} (long : Numeral.canWrite (16 ^ count - 1 : Nat) = false) :
    (({} : Session).scan {} ["Big: MACRO".toList, Line.reservation count, "ENDM".toList] none
      none).result = .error (.numeral .tooLongToWrite) := by
  have header : Scan.landmark? (Text.trim "Big: MACRO".toList) = some (.header "Big".toList) := by
    decide +kernel
  have within : Scan.isMacroEnd (Text.trim (Line.reservation count)) = false := by
    have code : Text.trim (Line.reservation count) = "DS".toList ++ ' ' :: greatestHex count :=
      (Text.trim_cons_of_isBlank (by decide) _).trans
        (Text.trim_of_isTrimmed (Line.isTrimmed_reservation count))
    rw [code]
    rfl
  have ends : Scan.isMacroEnd (Text.trim "ENDM".toList) = true := by decide +kernel
  obtain ⟨after, closed⟩ :=
    closeBlock_reservation (Text.upper "Big".toList) 0 1 2 { scanner := {} } long
  have stops : Scanner.scan {} {} ["Big: MACRO".toList, Line.reservation count, "ENDM".toList] none
      none = .error ⟨.numeral .tooLongToWrite, after⟩ := by
    show Scan.scanLines _ _ _ _ _ _ _ _ = _
    rw [Scan.scanLines, Scan.scanLine]
    simp only [header]
    show Scan.scanLines _ _ _ _ _ _ _ _ = _
    rw [Scan.scanLines, Scan.scanLine]
    simp only [within]
    show Scan.scanLines _ _ _ _ _ _ _ _ = _
    rw [Scan.scanLines, Scan.scanLine]
    simp only [ends, if_true, List.nil_append, Nat.zero_add, Nat.reduceAdd]
    rw [closed]
    rfl
  have scanner : ({} : Session).scanner = {} := rfl
  rw [scan, scanner, stops]

/-- Space is reserved by a numeral with 3572 hexadecimal digits.  In a macro it makes the scan give
up, and outside of one the analysis, although there is not a single decimal digit. -/
theorem reservation_gives_up :
    (∀ text ∈ ["Big: MACRO".toList, Line.reservation 3572, "ENDM".toList], ShortNumerals text) ∧
      (({} : Session).scan {} ["Big: MACRO".toList, Line.reservation 3572, "ENDM".toList] none
        none).result = .error (.numeral .tooLongToWrite) ∧
      (({} : Session).analyse {} [Line.reservation 3572] none none false).result =
        .error (.numeral .tooLongToWrite) := by
  have unscanned : ∀ (session : Session) (lines : List Text),
      session.analyse {} lines none none false = session.countLines lines none := fun _ _ => rfl
  have long : Numeral.canWrite (16 ^ 3572 - 1 : Nat) = false := by decide +kernel
  refine ⟨?_, scan_reservation long, ?_⟩
  · intro text member
    refine Text.shortNumerals_of_length_le ?_
    have length : (Line.reservation 3572).length = 3577 := by
      rw [Line.reservation, greatestHex, List.length_append, List.length_cons,
        List.length_replicate]
      rfl
    simp only [List.mem_cons, List.not_mem_nil, or_false] at member
    rcases member with rfl | rfl | rfl
    · decide
    · rw [length]
      decide
    · decide
  · obtain ⟨costs, gives, total⟩ := countLines_reservation 3572
    have large : Cost.canWrite { bytes := (16 ^ 3572 - 1 : Nat) } = false := by
      rw [Cost.canWrite, List.all_cons, long, Bool.false_and]
    rw [unscanned]
    exact gives.givenUp (total ▸ large)

end Session

end Sm83Cost
