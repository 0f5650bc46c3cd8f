import Sm83Cost.Proofs.Routine.Registration
import Sm83Cost.Proofs.Scan.LastBlocks

/-!
# The routines of a document and its labels

A scan collects comments as it goes and drops them at five different places.  What
it makes of them can be told from the lines alone.  A line outside of macros that
is a label (`LabelAt`) documents a routine if the comments above it say something
(`SpeaksAt`), and these are the comments on the lines without code between it and
the last line above that has code.

Of several labels with one name the last one that is documented counts, and a
label without comments changes nothing.  Without included files a name is
documented by no other line, and what was known of other names stays as it was
(`scan_documents_last_labels`).
-/

namespace Sm83Cost

set_option autoImplicit false

namespace Scan

variable {scanner : Scanner} {tree : FileTree} {directory : Option Path} {file : Option Text}
  {lines : List Text} {text name other key : Text} {index : Nat} {pending next : Pending}
  {progress after : Progress}

/-- A label is a landmark on a line that includes no file and begins no macro. -/
theorem landmark?_eq_label {line : Text} :
    landmark? line = some (.label name) ↔
      inclusion? line = none ∧ header? line = none ∧ label? line = some name := by
  rw [landmark?]
  cases inclusion? line <;> cases header? line <;> cases label? line <;> simp

/-! ## Labels that are documented -/

/-- The line is a label of this name: no macro is open above it, it includes no file and begins no
macro, and begins with a global label. -/
structure LabelAt (lines : List Text) (index : Nat) (name : Text) : Prop where
  label : LineAt (fun text => inclusion? (Text.trim text) = none ∧ header? (Text.trim text) = none ∧
    label? (Text.trim text) = some name) lines index
  outside : ∀ block start, ¬ OpenAt (lines.take index) block start

/-- The line is a label, and the comments above it say something. -/
structure SpeaksAt (lines : List Text) (index : Nat) (name : Text) : Prop where
  label : LabelAt lines index name
  spoken : (summaryAbove lines index).isSilent = false

/-- The line is the last documented label with this name in capitals. -/
structure IsLastLabel (lines : List Text) (key name : Text) (index : Nat) : Prop where
  speaks : SpeaksAt lines index name
  named : Text.upper name = key
  last : ∀ {other : Text} {index' : Nat}, SpeaksAt lines index' other →
    Text.upper other = key → index' ≤ index

/-- The routine of a label: its name as written, its place, and what the comments above it say. -/
def routineAt (file : Option Text) (lines : List Text) (index : Nat) (name : Text) : Routine where
  name := name
  file := file
  line := index
  arguments := (summaryAbove lines index).arguments
  description := (summaryAbove lines index).description

/-! ## One more line -/

theorem summaryAbove_append (bound : index ≤ lines.length) (more : List Text) :
    summaryAbove (lines ++ more) index = summaryAbove lines index := by
  rw [summaryAbove, List.take_append_of_le_length bound, summaryAbove]

theorem summaryAbove_length (lines : List Text) :
    summaryAbove lines lines.length = Comments.summarise (commentsAbove lines) := by
  rw [summaryAbove, List.take_length]

theorem LabelAt.lt_length (label : LabelAt lines index name) : index < lines.length :=
  label.label.lt_length

/-- One more line is a label if no macro is open before it and its landmark is a label. -/
theorem labelAt_concat :
    LabelAt (lines ++ [text]) index name ↔
      LabelAt lines index name ∨ index = lines.length ∧
        (∀ block start, ¬ OpenAt lines block start) ∧
          landmark? (Text.trim text) = some (.label name) := by
  rw [landmark?_eq_label]
  constructor
  · rintro ⟨label, outside⟩
    rcases lineAt_concat.1 label with above | ⟨rfl, here⟩
    · rw [List.take_append_of_le_length (Nat.le_of_lt above.lt_length)] at outside
      exact .inl ⟨above, outside⟩
    · rw [List.take_left] at outside
      exact .inr ⟨rfl, outside, here⟩
  · rintro (⟨label, outside⟩ | ⟨rfl, outside, here⟩)
    · refine ⟨lineAt_concat.2 (.inl label), ?_⟩
      rwa [List.take_append_of_le_length (Nat.le_of_lt label.lt_length)]
    · refine ⟨lineAt_concat.2 (.inr ⟨rfl, here⟩), ?_⟩
      rwa [List.take_left]

/-- What is documented above a line does not depend on the line. -/
theorem speaksAt_concat_iff (above : index < lines.length) :
    SpeaksAt (lines ++ [text]) index name ↔ SpeaksAt lines index name := by
  have summary : summaryAbove (lines ++ [text]) index = summaryAbove lines index :=
    summaryAbove_append (Nat.le_of_lt above) [text]
  constructor
  · rintro ⟨label, spoken⟩
    rcases labelAt_concat.1 label with label | ⟨rfl, -⟩
    · exact ⟨label, summary ▸ spoken⟩
    · exact absurd above (Nat.lt_irrefl _)
  · rintro ⟨label, spoken⟩
    exact ⟨labelAt_concat.2 (.inl label), summary ▸ spoken⟩

/-- A line has one label. -/
theorem LabelAt.unique (label : LabelAt lines index name) (label' : LabelAt lines index other) :
    name = other := by
  obtain ⟨text, found, -, -, named⟩ := label.label
  obtain ⟨text', found', -, -, named'⟩ := label'.label
  obtain rfl := Option.some.inj (found.symm.trans found')
  exact Option.some.inj (named.symm.trans named')

/-! ## What is documented behind some lines -/

/-- What stands under a key: the routine of the last documented label of this name, or what was
known of it before, if there is no such label. -/
inductive Documents (scanner : Scanner) (file : Option Text) (lines : List Text) (key : Text) :
    Option Routine → Prop where
  | kept (nowhere : ∀ name index, SpeaksAt lines index name → Text.upper name ≠ key) :
      Documents scanner file lines key (scanner.routines.get? key)
  | documented {name : Text} {index : Nat} (last : IsLastLabel lines key name index) :
      Documents scanner file lines key (some (routineAt file lines index name))

/-- A line that documents no routine of this name changes nothing under the key. -/
theorem Documents.skip {found : Option Routine} (documents : Documents scanner file lines key found)
    (silent : ∀ name, SpeaksAt (lines ++ [text]) lines.length name → Text.upper name ≠ key) :
    Documents scanner file (lines ++ [text]) key found := by
  have earlier : ∀ {name index}, SpeaksAt (lines ++ [text]) index name → Text.upper name = key →
      SpeaksAt lines index name := by
    intro name index speaks named
    have below := speaks.label.lt_length
    rw [List.length_append, List.length_singleton] at below
    rcases Nat.lt_succ_iff_lt_or_eq.1 below with above | rfl
    · exact (speaksAt_concat_iff above).1 speaks
    · exact absurd named (silent name speaks)
  cases documents with
  | kept nowhere =>
    apply Documents.kept
    intro name index speaks named
    exact nowhere name index (earlier speaks named) named
  | @documented name index last =>
    have above := last.speaks.label.lt_length
    have same : routineAt file lines index name = routineAt file (lines ++ [text]) index name := by
      rw [routineAt, routineAt, summaryAbove_append (Nat.le_of_lt above)]
    rw [same]
    refine .documented ⟨(speaksAt_concat_iff above).2 last.speaks, last.named, ?_⟩
    intro other index' speaks named
    exact last.last (earlier speaks named) named

/-- A documented label becomes the last one of its name. -/
theorem Documents.label {routines : Registry Routine}
    (documents : ∀ key, Documents scanner file lines key (routines.get? key))
    (speaks : SpeaksAt (lines ++ [text]) lines.length name) (key : Text) :
    Documents scanner file (lines ++ [text]) key
      ((routines.register (routineAt file (lines ++ [text]) lines.length name)).get? key) := by
  have named : Text.upper (Named.name (routineAt file (lines ++ [text]) lines.length name)) =
      Text.upper name := rfl
  rw [Registry.register, named]
  by_cases same : key = Text.upper name
  · rw [same, Store.get?_put_self]
    refine .documented ⟨speaks, rfl, ?_⟩
    intro other index' speaks' _
    have below := speaks'.label.lt_length
    rw [List.length_append, List.length_singleton] at below
    exact Nat.le_of_lt_succ below
  · rw [Store.get?_put_of_ne _ same]
    apply (documents key).skip
    intro other speaks' equal
    rw [speaks.label.unique speaks'.label] at same
    exact same equal.symm

/-- What a scan has pending agrees with the lines above. -/
theorem SoFar.tracks (above : SoFar scanner tree directory file lines pending progress) :
    Tracks lines pending := by
  induction above with
  | nil => exact tracks_nil
  | snoc above scanned ih => exact (lineStep_of_scanLine scanned).tracks ih

/-- No line is a label while a macro is open. -/
theorem not_speaksAt_within {block : Block} (pendingAt : PendingAt lines (.block block)) :
    ¬ SpeaksAt (lines ++ [text]) lines.length name := by
  intro speaks
  cases pendingAt with
  | block isOpen =>
    apply speaks.label.outside
    rw [List.take_left]
    exact isOpen

/-- A line with another landmark, or with none, documents nothing. -/
theorem not_speaksAt_of_landmark (unlabelled : landmark? (Text.trim text) ≠ some (.label name)) :
    ¬ SpeaksAt (lines ++ [text]) lines.length name := by
  intro speaks
  rcases labelAt_concat.1 speaks.label with above | ⟨-, -, mark⟩
  · exact Nat.lt_irrefl _ above.lt_length
  · exact unlabelled mark

/-- **One line keeps what is documented in step with the labels.** -/
theorem documents_step (tracked : Tracks lines pending) (pendingAt : PendingAt lines pending)
    (documents : ∀ key, Documents scanner file lines key (progress.scanner.routines.get? key))
    {scan : LineScan}
    (step : LineStep tree scan none file lines.length text pending progress next after)
    (key : Text) :
    Documents scanner file (lines ++ [text]) key (after.scanner.routines.get? key) := by
  have quiet : (∀ name, landmark? (Text.trim text) ≠ some (.label name)) →
      Documents scanner file (lines ++ [text]) key (progress.scanner.routines.get? key) := by
    intro unlabelled
    apply (documents key).skip
    intro name speaks
    exact absurd speaks (not_speaksAt_of_landmark (unlabelled name))
  cases step with
  | closes ends closed =>
    rw [routines_of_closeBlock closed]
    apply (documents key).skip
    intro name speaks
    exact absurd speaks (not_speaksAt_within pendingAt)
  | collects goesOn =>
    apply (documents key).skip
    intro name speaks
    exact absurd speaks (not_speaksAt_within pendingAt)
  | includes mark given => cases given
  | ignores mark | begins mark | passes mark =>
    apply quiet
    intro name labelled
    rw [mark] at labelled
    cases labelled
  | @labels comments _ name mark =>
    obtain ⟨shut⟩ := pendingAt
    have label : LabelAt (lines ++ [text]) lines.length name :=
      labelAt_concat.2 (.inr ⟨rfl, shut, mark⟩)
    have summary : summaryAbove (lines ++ [text]) lines.length = Comments.summarise comments := by
      rw [summaryAbove_append (Nat.le_refl _), summaryAbove_length, tracked.comments comments rfl]
    simp only [documentLabel, ← summary]
    cases spoken : (summaryAbove (lines ++ [text]) lines.length).isSilent with
    | true =>
      apply (documents key).skip
      intro other speaks
      rw [speaks.spoken] at spoken
      cases spoken
    | false => exact Documents.label documents ⟨label, spoken⟩ key

/-- Behind any lines of a document, what is documented is told by the labels. -/
theorem SoFar.documents (above : SoFar scanner tree none file lines pending progress) (key : Text) :
    Documents scanner file lines key (progress.scanner.routines.get? key) := by
  induction above generalizing key with
  | nil started =>
    rw [Scanner.scanner_of_start started]
    apply Documents.kept
    intro name index speaks
    exact absurd speaks.label.lt_length (Nat.not_lt_zero index)
  | snoc above scanned ih =>
    exact documents_step above.tracks above.describes.1 ih (lineStep_of_scanLine scanned) key

/-- What is documented in a document is told by its labels. -/
theorem documents_scan (scanned : scanner.scan tree lines none file = .ok progress) (key : Text) :
    Documents scanner file lines key (progress.scanner.routines.get? key) := by
  obtain ⟨pending, last, above, rfl⟩ := exists_soFar scanned
  rw [finish_scanner]
  exact above.documents key

/-- A name with a documented label is documented. -/
theorem Documents.ne_none {found : Option Routine}
    (documents : Documents scanner file lines (Text.upper name) found)
    (speaks : SpeaksAt lines index name) : found ≠ none := by
  cases documents with
  | kept nowhere => exact absurd rfl (nowhere name index speaks)
  | documented last => exact Option.some_ne_none _

/-- **A routine is documented by the comments above its last label.**  The scan of a document that
looks for no included files comes to its end.  Then either a label of this name is documented, in
any case, and the last such label gives the routine that is found, with its name as written, its
line, the document's name, and what the comments above it say; or there is no such label, and what
was known of the name before is still known. -/
theorem scan_documents_last_labels
    (scanned : scanner.scan tree lines none file = .ok progress) (name : Text) :
    (∃ label index, IsLastLabel lines (Text.upper name) label index ∧
      progress.scanner.routines.find? name = some (routineAt file lines index label)) ∨
    (∀ label index, SpeaksAt lines index label → Text.upper label ≠ Text.upper name) ∧
      progress.scanner.routines.find? name = scanner.routines.find? name := by
  have documented := documents_scan scanned (Text.upper name)
  rw [Registry.find?, Registry.find?]
  generalize progress.scanner.routines.get? (Text.upper name) = found at documented
  cases documented with
  | kept nowhere => exact .inr ⟨nowhere, rfl⟩
  | documented last => exact .inl ⟨_, _, last, rfl⟩

/-- A routine that is documented twice and then labelled once more without comments, and one that is
known from before and has the name of a label in the body of a macro. -/
theorem scan_documents_last_labels_twice :
    let lines : List Text := ["; Adds.".toList, "add: ret".toList, "; Sums up.".toList, [],
      " ; a: first".toList, "ADD::".toList, "Add:".toList, "Hide: MACRO".toList, "; Hidden.".toList,
      "Old:".toList, "ENDM".toList]
    let old : Routine := { name := "Old".toList, file := none, line := 77 }
    let scanner : Scanner := { routines := Registry.register (.empty : Registry Routine) old }
    ∃ progress, scanner.scan {} lines none none = .ok progress ∧
      IsLastLabel lines "ADD" "ADD" 5 ∧
        ∀ label index, SpeaksAt lines index label → Text.upper label ≠ "OLD".toList := by
  intro lines old scanner
  have outcome : (scanner.scan {} lines none none).toOption.map (fun progress =>
      (["add", "old"] : List String).map fun name =>
        (progress.scanner.routines.find? name).map fun found => (found.name, found.line)) =
      some [some ("ADD".toList, 5), some ("Old".toList, 77)] := by
    decide +kernel
  have fresh : scanner.routines.find? "add" = none := by decide +kernel
  have capitals : Text.upper "add" = "ADD".toList ∧ Text.upper "old" = "OLD".toList := by decide
  cases scanned : scanner.scan {} lines none none with
  | error stopped =>
    rw [scanned] at outcome
    cases outcome
  | ok progress =>
    rw [scanned, Except.toOption, Option.map_some, Option.some_inj, List.map_cons, List.map_cons,
      List.map_nil, List.cons.injEq, List.cons.injEq] at outcome
    obtain ⟨added, kept, -⟩ := outcome
    refine ⟨progress, rfl, ?_, ?_⟩
    · have found := scan_documents_last_labels scanned "add"
      rw [capitals.1] at found
      rcases found with ⟨label, index, last, same⟩ | ⟨-, same⟩
      · rw [same, Option.map_some, Option.some_inj, Prod.mk.injEq] at added
        obtain ⟨named, placed⟩ := added
        obtain rfl : label = "ADD".toList := named
        obtain rfl : index = 5 := Int.ofNat.inj placed
        exact last
      · rw [same, fresh] at added
        cases added
    · have found := scan_documents_last_labels scanned "old"
      rw [capitals.2] at found
      rcases found with ⟨label, index, last, same⟩ | ⟨nowhere, -⟩
      · rw [same, Option.map_some, Option.some_inj, Prod.mk.injEq] at kept
        have placed : index = 77 := Int.ofNat.inj kept.2
        have below : index < 11 := last.speaks.label.lt_length
        omega
      · exact nowhere

end Scan

end Sm83Cost
