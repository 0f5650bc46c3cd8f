import Sm83Cost.Proofs.Scan.Abreast
import Sm83Cost.Proofs.Scan.Blocks
import Sm83Cost.Proofs.Scan.Keeping
import Sm83Cost.Proofs.Scan.OpenedFiles
import Sm83Cost.Proofs.Text.Capitals

/-!
# The macros of a document and its blocks

A scan walks over a document once and keeps the block that is open.  What it has
found behind some lines is what a scan finds in a document of these lines alone
(`SoFar.scan_eq`), so one can go from each line to the next.

Without included files, the macros that are found are those of the blocks of the
document, and of several blocks with one name the last one counts
(`scan_registers_last_blocks`).  Its body is taken apart with the macros that are
known where it ends, and these are again those of the blocks above.
-/

namespace Sm83Cost

set_option autoImplicit false

namespace Scan

variable {scanner : Scanner} {tree : FileTree} {directory : Option Path} {file : Option Text}
  {lines : List Text} {text name : Text} {start stop : Nat} {pending next : Pending}
  {progress after : Progress}

/-! ## A scan from line to line -/

/-- The scan of a document has come behind these lines. -/
inductive SoFar (scanner : Scanner) (tree : FileTree) (directory : Option Path)
    (file : Option Text) : List Text → Pending → Progress → Prop where
  | nil {progress : Progress} (started : scanner.start tree file = .ok progress) :
      SoFar scanner tree directory file [] (.comments []) progress
  | snoc {lines : List Text} {text : Text} {pending next : Pending} {progress after : Progress}
      (above : SoFar scanner tree directory file lines pending progress)
      (scanned : scanLine tree (scanTo tree tree.nodes.length) directory file lines.length text
        pending progress = .ok (next, after)) :
      SoFar scanner tree directory file (lines ++ [text]) next after

/-- A scan goes on from where it has come. -/
theorem SoFar.scan_append (above : SoFar scanner tree directory file lines pending progress)
    (rest : List Text) :
    scanner.scan tree (lines ++ rest) directory file =
      scanLines tree (scanTo tree tree.nodes.length) directory file lines.length rest pending
        progress := by
  induction above generalizing rest with
  | nil started =>
    rw [Scanner.scan_eq, started]
    rfl
  | snoc above scanned ih =>
    rw [List.append_assoc, ih, List.singleton_append, scanLines, scanned, List.length_append]
    rfl

/-- Where a scan has come is where it ends on these lines alone. -/
theorem SoFar.scan_eq (above : SoFar scanner tree directory file lines pending progress) :
    scanner.scan tree lines directory file = .ok (finish pending progress) := by
  have whole := above.scan_append []
  rwa [List.append_nil] at whole

/-- A scan comes behind the first lines of a document, or it is given up there. -/
theorem soFar_or_stopped (scanner : Scanner) (tree : FileTree) (directory : Option Path)
    (file : Option Text) (lines : List Text) :
    (∃ pending progress, SoFar scanner tree directory file lines pending progress) ∨
      ∃ stopped, ∀ rest, scanner.scan tree (lines ++ rest) directory file = .error stopped := by
  induction lines using List.reverseRecOn with
  | nil =>
    cases started : scanner.start tree file with
    | ok progress => exact .inl ⟨.comments [], progress, .nil started⟩
    | error stopped =>
      refine .inr ⟨stopped, fun rest => ?_⟩
      rw [Scanner.scan_eq, started]
      rfl
  | append_singleton lines text ih =>
    rcases ih with ⟨pending, progress, above⟩ | ⟨stopped, failed⟩
    · cases scanned : scanLine tree (scanTo tree tree.nodes.length) directory file lines.length text
          pending progress with
      | ok found => exact .inl ⟨found.1, found.2, .snoc above scanned⟩
      | error stopped =>
        refine .inr ⟨stopped, fun rest => ?_⟩
        rw [List.append_assoc, above.scan_append, List.singleton_append, scanLines, scanned]
        rfl
    · refine .inr ⟨stopped, fun rest => ?_⟩
      rw [List.append_assoc, failed]

/-- A scan that comes to its end has come behind the first lines. -/
theorem exists_soFar_append {rest : List Text}
    (scanned : scanner.scan tree (lines ++ rest) directory file = .ok progress) :
    ∃ pending before, SoFar scanner tree directory file lines pending before := by
  rcases soFar_or_stopped scanner tree directory file lines with above | ⟨stopped, failed⟩
  · exact above
  · rw [failed] at scanned
    cases scanned

/-- A scan that comes to its end has come behind all lines. -/
theorem exists_soFar (scanned : scanner.scan tree lines directory file = .ok progress) :
    ∃ pending last, SoFar scanner tree directory file lines pending last ∧
      progress = finish pending last := by
  rw [← List.append_nil lines] at scanned
  obtain ⟨pending, last, above⟩ := exists_soFar_append scanned
  rw [List.append_nil, above.scan_eq] at scanned
  exact ⟨pending, last, above, (Except.ok.inj scanned).symm⟩

@[simp]
theorem finish_scanner (pending : Pending) (progress : Progress) :
    (finish pending progress).scanner = progress.scanner := by
  cases pending <;> rfl

/-! ## Bodies -/

/-- The lines between two lines of a document, with their numbers. -/
def linesBetween (lines : List Text) (start stop : Nat) : List (Nat × Text) :=
  (((lines.take stop).drop (start + 1)).zipIdx (start + 1)).map Prod.swap

theorem linesBetween_append (bound : stop ≤ lines.length) (more : List Text) :
    linesBetween (lines ++ more) start stop = linesBetween lines start stop := by
  rw [linesBetween, List.take_append_of_le_length bound, linesBetween]

/-- One more line is the last one of the body. -/
theorem linesBetween_concat (above : start < lines.length) :
    linesBetween (lines ++ [text]) start (lines.length + 1) =
      linesBetween lines start lines.length ++ [(lines.length, text)] := by
  have whole : (lines ++ [text]).take (lines.length + 1) = lines ++ [text] :=
    List.take_of_length_le (by simp)
  rw [linesBetween, whole, List.drop_append_of_le_length above, List.zipIdx_append,
    List.map_append, linesBetween, List.take_length, List.length_drop]
  have next : start + 1 + (lines.length - (start + 1)) = lines.length := by omega
  rw [next]
  rfl

theorem linesBetween_self : linesBetween lines start (start + 1) = [] := by
  rw [linesBetween, List.drop_eq_nil_of_le (List.length_take_le _ _)]
  rfl

/-- The macro is that of a block: it has its name in capitals and its place, and its body is the
lines between that have an operation, taken apart with these macros in view. -/
structure IsMacroOf (macros : Registry Macro) (lines : List Text) (name : Text) (start stop : Nat)
    (definition : Macro) : Prop where
  name_eq : definition.name = Text.upper name
  startLine : definition.startLine = start
  endLine : definition.endLine = stop
  body : ∃ parsed, (linesBetween lines start stop).mapM
      (fun numbered => Line.parse macros.defines numbered.1 numbered.2) = .ok parsed ∧
    definition.body = parsed.filter (·.operation.isSome)

theorem line_of_measureOperation {line : Line} {operation : Operation} {measured : BodyLine}
    (found : measureOperation scanner line operation = .ok measured) : measured.line = line := by
  rw [measureOperation] at found
  split at found
  · cases found
    rfl
  · cases found
    rfl
  · cases found
    rfl
  · split at found
    · obtain ⟨bounds, -, made⟩ := Fault.bind_eq_ok.1 found
      cases made
      rfl
    · cases found
      rfl
  · obtain ⟨entry, -, found⟩ := Fault.bind_eq_ok.1 found
    cases entry with
    | none =>
      cases found
      rfl
    | some entry =>
      obtain ⟨bounds, -, made⟩ := Fault.bind_eq_ok.1 found
      cases made
      rfl

/-- A line of a body is measured as it is taken apart. -/
theorem line_of_measure {numbered : Nat × Text} {measured : BodyLine}
    (found : measure scanner numbered = .ok measured) :
    scanner.parseLine numbered.2 numbered.1 = .ok measured.line := by
  rw [measure] at found
  obtain ⟨line, parsed, found⟩ := Fault.bind_eq_ok.1 found
  rw [Fault.ofNumeral_eq_ok.1 parsed]
  cases holds : line.operation with
  | none =>
    rw [holds] at found
    cases found
    rfl
  | some operation =>
    rw [holds] at found
    rw [line_of_measureOperation found]

/-- A body that can be measured can be taken apart. -/
theorem mapM_parseLine_of_measureAll {body : List (Nat × Text)}
    (whole : (measureAll scanner body).2 = none) :
    body.mapM (fun numbered => scanner.parseLine numbered.2 numbered.1) =
      .ok ((measureAll scanner body).1.map BodyLine.line) := by
  induction body with
  | nil => rfl
  | cons first rest ih =>
    rw [measureAll] at whole ⊢
    cases here : measure scanner first with
    | error fault =>
      rw [here] at whole
      cases whole
    | ok measured =>
      rw [here] at whole
      rw [List.mapM_cons, line_of_measure here, ih whole]
      rfl

/-- A block that is closed has its macro registered. -/
theorem register_of_closeBlock {block : Block} {number : Nat}
    (closed : closeBlock block number progress = .ok after) :
    (measureAll progress.scanner block.lines).2 = none ∧
      after.scanner = { progress.scanner with
        macros := progress.scanner.macros.register
          (block.define number (measureAll progress.scanner block.lines).1) } := by
  rcases closeBlock_cases block number progress with
    ⟨fault, -, records, failed⟩ | ⟨whole, records, result⟩
  · rw [failed] at closed
    cases closed
  · rw [result] at closed
    split at closed
    · cases closed
    · cases closed
      exact ⟨whole, rfl⟩

/-- The macros that are pinned stay so. -/
theorem SoFar.pinned_eq (above : SoFar scanner tree none file lines pending progress) :
    progress.scanner.pinned = scanner.pinned := by
  induction above with
  | nil started => rw [Scanner.scanner_of_start started]
  | snoc above scanned ih =>
    cases lineStep_of_scanLine scanned with
    | closes ends closed =>
      rw [(register_of_closeBlock closed).2]
      exact ih
    | collects goesOn => exact ih
    | ignores mark => exact ih
    | includes mark given => cases given
    | begins mark => exact ih
    | @labels comments _ name mark =>
      obtain ⟨routines, journal, documented⟩ := documentLabel_eq_besides _ _ _ comments _
      rw [documented]
      exact ih
    | passes mark parsed => exact ih

/-! ## What is registered behind some lines -/

/-- What is pending agrees with the lines: a block is pending exactly if it is open behind them, with
the lines of its body. -/
inductive PendingAt (lines : List Text) : Pending → Prop where
  | comments {texts : List Text} (shut : ∀ name start, ¬ OpenAt lines name start) :
      PendingAt lines (.comments texts)
  | block {block : Block} {name : Text} (isOpen : OpenAt lines name block.startLine)
      (named : block.name = Text.upper name)
      (collected : block.lines = linesBetween lines block.startLine lines.length) :
      PendingAt lines (.block block)

/-- The block is the last one with this name in capitals. -/
structure IsLastBlock (lines : List Text) (key name : Text) (start stop : Nat) : Prop where
  block : IsBlock lines name start stop
  named : Text.upper name = key
  last : ∀ {other : Text} {start' stop' : Nat}, IsBlock lines other start' stop' →
    Text.upper other = key → start' ≤ start

/-- What stands under a key: nothing, if no block has this name, and otherwise the macro of the last
one, taken apart with the macros that a scan has found where this block ends, or with those that are
pinned. -/
inductive Describes (scanner : Scanner) (tree : FileTree) (file : Option Text)
    (lines : List Text) (key : Text) : Option Macro → Prop where
  | undefined (nowhere : ∀ name start stop, IsBlock lines name start stop →
      Text.upper name ≠ key) :
      Describes scanner tree file lines key none
  | defined {definition : Macro} {name : Text} {start stop : Nat} {before : Progress}
      (block : IsLastBlock lines key name start stop)
      (scanned : scanner.scan tree (lines.take stop) none file = .ok before)
      (same : IsMacroOf (scanner.pinned.getD before.scanner.macros) lines name start stop
        definition) :
      Describes scanner tree file lines key (some definition)

theorem IsBlock.stop_lt (block : IsBlock lines name start stop) : stop < lines.length :=
  block.ends.lt_length

/-- More lines change nothing about a macro. -/
theorem IsMacroOf.append {macros : Registry Macro} {definition : Macro}
    (bound : stop ≤ lines.length) (same : IsMacroOf macros lines name start stop definition)
    (more : List Text) : IsMacroOf macros (lines ++ more) name start stop definition := by
  refine ⟨same.name_eq, same.startLine, same.endLine, ?_⟩
  rw [linesBetween_append bound]
  exact same.body

/-- A line that closes no block with this name changes nothing under the key. -/
theorem Describes.skip {key : Text} {found : Option Macro}
    (describes : Describes scanner tree file lines key found)
    (closes : ∀ {name start stop}, IsBlock (lines ++ [text]) name start stop →
      Text.upper name = key → IsBlock lines name start stop) :
    Describes scanner tree file (lines ++ [text]) key found := by
  cases describes with
  | undefined nowhere =>
    refine .undefined fun name start stop block named => ?_
    exact nowhere name start stop (closes block named) named
  | defined block scanned same =>
    have bound := Nat.le_of_lt block.block.stop_lt
    refine .defined ⟨isBlock_concat.2 (.inl block.block), block.named, ?_⟩ ?_
      (same.append bound [text])
    · exact fun block' named => block.last (closes block' named) named
    · rwa [List.take_append_of_le_length bound]

/-- The block that is closed becomes the last one of its name. -/
theorem isLastBlock_concat (isOpen : OpenAt lines name start)
    (ends : isMacroEnd (Text.trim text) = true) :
    IsLastBlock (lines ++ [text]) (Text.upper name) name start lines.length := by
  have block := isBlock_concat.2 (.inr ⟨isOpen, rfl, ends⟩)
  refine ⟨block, rfl, fun {other start' stop'} block' _ => ?_⟩
  rcases isBlock_concat.1 block' with earlier | ⟨isOpen', -, -⟩
  · have below := earlier.below
    have bound := earlier.stop_lt
    rcases block'.apart block with ⟨-, rfl, -⟩ | above | under <;> omega
  · exact Nat.le_of_eq (isOpen'.unique isOpen).2

/-- A line that closes a block describes its macro, and leaves the others alone. -/
theorem Describes.close {macros : Registry Macro}
    (describes : ∀ key, Describes scanner tree file lines key (macros.get? key))
    (isOpen : OpenAt lines name start) (ends : isMacroEnd (Text.trim text) = true)
    {before : Progress} (scanned : scanner.scan tree lines none file = .ok before)
    {definition : Macro}
    (same : IsMacroOf (scanner.pinned.getD before.scanner.macros) lines name start lines.length
      definition) (key : Text) :
    Describes scanner tree file (lines ++ [text]) key ((macros.register definition).get? key) := by
  have registered : Text.upper (Named.name definition) = Text.upper name :=
    (congrArg Text.upper same.name_eq).trans (Text.upper_upper name)
  rw [Registry.register, registered]
  by_cases equal : key = Text.upper name
  · rw [equal, Store.get?_put_self]
    refine .defined (isLastBlock_concat isOpen ends) ?_ (same.append (Nat.le_refl _) [text])
    rwa [List.take_left]
  · rw [Store.get?_put_of_ne _ equal]
    refine (describes key).skip fun {name' start' stop'} block named => ?_
    refine (isBlock_concat.1 block).resolve_right fun closed => equal ?_
    rw [← named, (closed.1.unique isOpen).1]

/-- No block is open behind one more line that is no header. -/
theorem pendingAt_comments {texts : List Text} (shut : ∀ name start, ¬ OpenAt lines name start)
    (other : ∀ name, landmark? (Text.trim text) ≠ some (.header name)) :
    PendingAt (lines ++ [text]) (.comments texts) := by
  refine .comments fun name start isOpen => ?_
  rcases openAt_concat.1 isOpen with ⟨before, -⟩ | ⟨-, -, named⟩
  · exact shut name start before
  · rw [header?_trim] at named
    exact other name (landmark?_eq_header_iff.2 named)

/-- **One line keeps what is pending and what is registered in step with the blocks.** -/
theorem describes_step (above : SoFar scanner tree none file lines pending progress)
    (pendingAt : PendingAt lines pending)
    (describes : ∀ key, Describes scanner tree file lines key (progress.scanner.macros.get? key))
    (step : LineStep tree (scanTo tree tree.nodes.length) none file lines.length text pending
      progress next after) :
    PendingAt (lines ++ [text]) next ∧
      ∀ key, Describes scanner tree file (lines ++ [text]) key
        (after.scanner.macros.get? key) := by
  have shutSkips : (∀ name start, ¬ OpenAt lines name start) → ∀ key,
      Describes scanner tree file (lines ++ [text]) key (progress.scanner.macros.get? key) :=
    fun shut key => (describes key).skip fun block _ =>
      (isBlock_concat.1 block).resolve_right fun closed => shut _ _ closed.1
  cases step with
  | @closes block _ _ ends closed =>
    cases pendingAt with
    | @block _ name isOpen named collected =>
      obtain ⟨whole, registered⟩ := register_of_closeBlock closed
      have same : IsMacroOf (scanner.pinned.getD (finish (.block block) progress).scanner.macros)
          lines name block.startLine lines.length
          (block.define lines.length (measureAll progress.scanner block.lines).1) := by
        rw [finish_scanner, ← above.pinned_eq]
        refine ⟨named, rfl, rfl, _, ?_, rfl⟩
        rw [← collected]
        exact mapM_parseLine_of_measureAll whole
      constructor
      · refine .comments fun other start isOpen' => ?_
        rcases openAt_concat.1 isOpen' with ⟨-, goesOn⟩ | ⟨shut, -, -⟩
        · rw [ends] at goesOn
          cases goesOn
        · exact shut name block.startLine isOpen
      · intro key
        rw [registered]
        exact Describes.close describes isOpen ends above.scan_eq same key
  | collects goesOn =>
    cases pendingAt with
    | @block _ name isOpen named collected =>
      constructor
      · refine .block (openAt_concat.2 (.inl ⟨isOpen, goesOn⟩)) named ?_
        rw [List.length_append, List.length_singleton, collected]
        exact (linesBetween_concat isOpen.header.lt_length).symm
      · intro key
        refine (describes key).skip fun block _ => (isBlock_concat.1 block).resolve_right ?_
        rintro ⟨-, -, ends⟩
        rw [goesOn] at ends
        cases ends
  | ignores mark =>
    obtain ⟨shut⟩ := pendingAt
    refine ⟨pendingAt_comments shut fun name header => ?_, shutSkips shut⟩
    rw [mark] at header
    cases header
  | includes mark given => cases given
  | begins mark =>
    obtain ⟨shut⟩ := pendingAt
    rw [landmark?_eq_header_iff, ← header?_trim] at mark
    refine ⟨.block (openAt_concat.2 (.inr ⟨shut, rfl, mark⟩)) rfl ?_, shutSkips shut⟩
    rw [List.length_append, List.length_singleton, linesBetween_self]
  | @labels comments _ name mark =>
    obtain ⟨shut⟩ := pendingAt
    obtain ⟨routines, journal, documented⟩ :=
      documentLabel_eq_besides file name lines.length comments progress
    rw [documented]
    refine ⟨pendingAt_comments shut fun name header => ?_, shutSkips shut⟩
    rw [mark] at header
    cases header
  | @passes comments _ line mark parsed =>
    obtain ⟨shut⟩ := pendingAt
    obtain ⟨kept, dropped⟩ := pendingAfter_eq_comments comments line
    rw [dropped]
    refine ⟨pendingAt_comments shut fun name header => ?_, shutSkips shut⟩
    rw [mark] at header
    cases header

/-- Behind any lines of a document, what is registered is described by the blocks. -/
theorem SoFar.describes (above : SoFar scanner tree none file lines pending progress) :
    PendingAt lines pending ∧
      ∀ key, Describes scanner tree file lines key (progress.scanner.macros.get? key) := by
  induction above with
  | nil started =>
    have empty : ∀ number name, ¬ HeaderAt [] number name := by
      rintro number name ⟨text, found, -⟩
      cases found
    refine ⟨.comments fun name start isOpen => empty start name isOpen.header, fun key => ?_⟩
    rw [Scanner.scanner_of_start started]
    exact .undefined fun name start stop block _ => empty start name block.header
  | snoc above scanned ih =>
    exact describes_step above ih.1 ih.2 (lineStep_of_scanLine scanned)

/-- **The macros of a document are those of its last blocks.**  The scan of a document that looks for
no included files comes to its end.  A name is then defined exactly if there is a block with this
name, in any case.  Its macro is that of the last such block, from the header to the next line that
ends a macro, with the operations on the lines between, as they are taken apart with the macros that
are known where the block ends.  Different blocks have no line in common. -/
theorem scan_registers_last_blocks
    (scanned : scanner.scan tree lines none file = .ok progress) (name : Text) :
    (progress.scanner.macros.defines name = true ↔
      ∃ header start stop, IsBlock lines header start stop ∧
        Text.upper header = Text.upper name) ∧
    (∀ definition, progress.scanner.macros.find? name = some definition →
      ∃ header start stop before, IsLastBlock lines (Text.upper name) header start stop ∧
        scanner.scan tree (lines.take stop) none file = .ok before ∧
        IsMacroOf (scanner.pinned.getD before.scanner.macros) lines header start stop definition) ∧
    ∀ header start stop header' start' stop',
      IsBlock lines header start stop → IsBlock lines header' start' stop' →
        (header = header' ∧ start = start' ∧ stop = stop') ∨ stop < start' ∨ stop' < start := by
  obtain ⟨pending, last, above, rfl⟩ := exists_soFar scanned
  have described := above.describes.2 (Text.upper name)
  rw [finish_scanner, Registry.defines, Registry.find?]
  refine ⟨?_, ?_, fun _ _ _ _ _ _ block block' => block.apart block'⟩
  · generalize last.scanner.macros.get? (Text.upper name) = found at described
    cases described with
    | undefined nowhere =>
      refine iff_of_false Bool.false_ne_true ?_
      rintro ⟨header, start, stop, block, named⟩
      exact nowhere header start stop block named
    | defined block _ _ => exact iff_of_true rfl ⟨_, _, _, block.block, block.named⟩
  · intro definition found
    rw [found] at described
    cases described with
    | defined block scanned same => exact ⟨_, _, _, _, block, scanned, same⟩

/-- A macro that is defined twice, the second time with a header in its body, and one that does not
end. -/
theorem scan_registers_last_blocks_redefined :
    let lines : List Text := ["Foo: macro", " nop", "endm", "MACRO foo", "Bar: macro",
      " inc a ; up", "ENDM", "Baz: MACRO"]
    (∃ header, IsLastBlock lines "FOO" header 3 6) ∧
      ∀ name ∈ (["BAR", "BAZ"] : List Text), ∀ header start stop,
        IsBlock lines header start stop → Text.upper header ≠ name := by
  intro lines
  have outcome : (Scanner.scan {} {} lines none none).toOption.map (fun progress =>
      ((progress.scanner.macros.find? "foo").map fun found => (found.startLine, found.endLine),
        progress.scanner.macros.defines "Bar" || progress.scanner.macros.defines "Baz")) =
      some (some (3, 6), false) := by
    decide +kernel
  cases scanned : Scanner.scan {} {} lines none none with
  | error stopped =>
    rw [scanned] at outcome
    cases outcome
  | ok progress =>
    rw [scanned, Except.toOption, Option.map_some, Option.some_inj, Prod.mk.injEq,
      Bool.or_eq_false_iff] at outcome
    obtain ⟨place, undefined⟩ := outcome
    constructor
    · obtain ⟨definition, found, placed⟩ := Option.map_eq_some_iff.1 place
      obtain ⟨header, start, stop, _, block, -, same⟩ :=
        (scan_registers_last_blocks scanned "foo").2.1 definition found
      have capitals : Text.upper "foo" = "FOO".toList := by decide
      rw [capitals] at block
      obtain ⟨first, last⟩ := Prod.mk.inj placed
      have starts := same.startLine.symm.trans first
      have stops := same.endLine.symm.trans last
      obtain rfl : start = 3 := by omega
      obtain rfl : stop = 6 := by omega
      exact ⟨header, block⟩
    · intro name listed header start stop block same
      have none : ∀ word : Text, progress.scanner.macros.defines word = false →
          Text.upper word ≠ name := by
        intro word undefined capitals
        have defined := (scan_registers_last_blocks scanned word).1.2
          ⟨header, start, stop, block, same.trans capitals.symm⟩
        rw [undefined] at defined
        cases defined
      have capitals : Text.upper "Bar" = "BAR".toList ∧ Text.upper "Baz" = "BAZ".toList := by decide
      rcases List.mem_cons.1 listed with rfl | listed
      · exact none "Bar" undefined.1 capitals.1
      · exact none "Baz" undefined.2 (List.mem_singleton.1 listed ▸ capitals.2)

end Scan

end Sm83Cost
