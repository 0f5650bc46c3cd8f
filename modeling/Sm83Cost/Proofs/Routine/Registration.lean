import Sm83Cost.Proofs.Routine.Labels
import Sm83Cost.Proofs.Scan.Keeping

/-!
# The routines that a scan registers

Which routines the scan of a file registers, and which files it goes on to, does
not depend on the macros and routines that are known when it begins.  These
decide only whether it is given up.  So there is one list of routines for every
file, which a scan that succeeds registers in order (`exists_added`).  Each of
them is documented in the file itself or in one that it includes, and no
documented label of the file is missing.

The list is put together line by line, and by induction on the depth to which
included files are followed.  Only the places that a scan has been to matter for
what follows, so they are carried along.
-/

namespace Sm83Cost

set_option autoImplicit false

namespace Scan

/-! ## What a scan adds -/

/-- The scan has gone on to these places and has registered these routines in order. -/
structure Adds (places : List Route) (documented : List Routine) (progress after : Progress) :
    Prop where
  visited : after.visited = places
  routines : after.scanner.routines =
    documented.foldl Registry.register progress.scanner.routines

theorem Adds.trans {places later : List Route} {first second : List Routine}
    {progress middle after : Progress} (adds : Adds places first progress middle)
    (further : Adds later second middle after) : Adds later (first ++ second) progress after where
  visited := further.visited
  routines := by rw [further.routines, adds.routines, List.foldl_append]

theorem routines_of_closeBlock {block : Block} {number : Nat} {progress after : Progress}
    (closed : closeBlock block number progress = .ok after) :
    after.scanner.routines = progress.scanner.routines := by
  rcases closeBlock_cases block number progress with
    ⟨fault, -, records, stopped⟩ | ⟨-, records, outcome⟩
  · rw [stopped] at closed
    cases closed
  · rw [outcome] at closed
    split at closed
    · cases closed
    · cases closed
      rfl

/-- The routine of a label behind these lines, if the comments above it say anything. -/
def routineBehind (path : Path) (above : List Text) (name : Text) : Option Routine :=
  let summary := Comments.summarise (commentsAbove above)
  if summary.isSilent then none
  else some { name, file := some path.text, line := above.length,
              arguments := summary.arguments, description := summary.description }

theorem adds_documentLabel (path : Path) (above : List Text) (name : Text) (progress : Progress) :
    Adds progress.visited (routineBehind path above name).toList progress
      (documentLabel (some path.text) name above.length (commentsAbove above) progress) := by
  rw [routineBehind, documentLabel]
  split
  · exact ⟨rfl, rfl⟩
  · exact ⟨rfl, rfl⟩

theorem documentedAt_of_routineBehind {path : Path} {above rest : List Text} {text name : Text}
    {routine : Routine} (label : GlobalLabel (above ++ text :: rest) above.length name)
    (behind : routineBehind path above name = some routine) :
    DocumentedAt path (above ++ text :: rest) above.length routine := by
  have before : (above ++ text :: rest).take above.length = above := by simp
  rw [routineBehind] at behind
  split at behind
  · cases behind
  · cases behind
    exact ⟨label, rfl, rfl, by rw [summaryAbove, before], by rw [summaryAbove, before]⟩

/-! ## Lines outside of macros -/

section Steps

variable {tree : FileTree} {scan : LineScan} {directory : Option Path} {file : Option Text}
  {number : Nat} {text : Text} {comments : List Text} {next : Pending}
  {progress after : Progress}
  (step : LineStep tree scan directory file number text (.comments comments) progress next after)
include step

/-- A line without label and included file changes nothing but what is pending. -/
theorem LineStep.after_eq (excluded : ∀ target, landmark? (Text.trim text) ≠ some (.inclusion target))
    (unlabelled : ∀ name, landmark? (Text.trim text) ≠ some (.label name)) : after = progress := by
  cases step with
  | ignores | begins | passes => rfl
  | includes mark => exact absurd mark (excluded _)
  | labels mark => exact absurd mark (unlabelled _)

theorem LineStep.after_of_label {name : Text}
    (mark : landmark? (Text.trim text) = some (.label name)) :
    after = documentLabel file name number comments progress := by
  cases step with
  | labels other =>
    rw [mark] at other
    cases other
    rfl
  | ignores other | includes other | begins other | passes other =>
    rw [mark] at other
    cases other

theorem LineStep.inclusionStep {target : Text} {base : Path} (given : directory = some base)
    (mark : landmark? (Text.trim text) = some (.inclusion target)) :
    InclusionStep tree scan base target progress after := by
  cases step with
  | includes other found included =>
    rw [mark] at other
    rw [given] at found
    cases other
    cases found
    exact included
  | ignores other nowhere =>
    rw [given] at nowhere
    cases nowhere
  | begins other | labels other | passes other =>
    rw [mark] at other
    cases other

end Steps

/-! ## Scans by what they add -/

/-- Whatever is known when one of these scans begins: it goes on from the first places to the
second, and registers the routines in order.  Each of them is documented from the path. -/
structure AddsFrom (tree : FileTree) (path : Path) (visited places : List Route)
    (documented : List Routine) (scans : Progress → Progress → Prop) : Prop where
  adds : ∀ {progress after : Progress}, progress.visited = visited → scans progress after →
    Adds places documented progress after
  sourced : ∀ routine ∈ documented, DocumentedFrom tree path routine

/-- The scans add what they add to any file that can be read. -/
def AddsToFiles (tree : FileTree) (inner : LineScan) : Prop :=
  ∀ path lines visited, tree.readLines path = .ok lines →
    ∃ places documented, AddsFrom tree path visited places documented fun progress after =>
      inner (some path.parent) (some path.text) lines progress = .ok after

section Lines

variable {tree : FileTree} {inner : LineScan} {path : Path} {visited : List Route}
  {above rest : List Text} {text : Text}

theorem addsFrom_nothing {scans : Progress → Progress → Prop}
    (same : ∀ progress after, scans progress after →
      after.visited = progress.visited ∧ after.scanner.routines = progress.scanner.routines) :
    AddsFrom tree path visited visited [] scans where
  adds := by
    intro progress after begins scanned
    obtain ⟨places, routines⟩ := same progress after scanned
    exact ⟨places.trans begins, routines⟩
  sourced := List.forall_mem_nil _

/-- An included file adds what its own scan adds, unless it has been visited. -/
theorem exists_added_inclusion (within : AddsToFiles tree inner) {target : Text}
    (included : ∀ other, resolve? tree path.parent target = some other →
      Includes tree path other) (visited : List Route) :
    ∃ places documented, AddsFrom tree path visited places documented
      (InclusionStep tree inner path.parent target) := by
  cases found : resolve? tree path.parent target with
  | none =>
    refine ⟨visited, [], addsFrom_nothing ?_⟩
    intro progress after step
    cases step with
    | missing => exact ⟨rfl, rfl⟩
    | known other | unreadable other | opened other =>
      rw [found] at other
      cases other
  | some other =>
    obtain ⟨lines, read⟩ := readLines_of_resolve found
    by_cases known : tree.canonical other ∈ visited
    · refine ⟨visited, [], ?_, List.forall_mem_nil _⟩
      rintro progress after rfl step
      cases step with
      | missing nowhere =>
        rw [found] at nowhere
        cases nowhere
      | known => exact ⟨rfl, rfl⟩
      | unreadable other fresh | opened other fresh =>
        rw [found] at other
        cases other
        exact absurd known fresh
    · obtain ⟨places, documented, added⟩ :=
        within other lines (visited ++ [tree.canonical other]) read
      refine ⟨places, documented, ?_, ?_⟩
      · rintro progress after rfl step
        cases step with
        | missing nowhere =>
          rw [found] at nowhere
          cases nowhere
        | known same visited =>
          rw [found] at same
          cases same
          exact absurd visited known
        | unreadable same fresh failed =>
          rw [found] at same
          cases same
          rw [read] at failed
          cases failed
        | opened same fresh opened scanned =>
          rw [found] at same
          cases same
          rw [read] at opened
          cases opened
          obtain ⟨visited, routines⟩ := added.adds rfl scanned
          exact ⟨visited, routines⟩
      · intro routine member
        exact (added.sourced routine member).head (included other found)

/-- The line is scanned with what is pending behind the lines above it. -/
def ScansLine (tree : FileTree) (inner : LineScan) (path : Path) (above : List Text)
    (text : Text) (progress after : Progress) : Prop :=
  ∃ pending next, Tracks above pending ∧
    LineStep tree inner (some path.parent) (some path.text) above.length text pending progress
      next after

/-- A line inside of a macro adds nothing. -/
theorem addsFrom_within_macro (opened : leavesOpen above = true) :
    AddsFrom tree path visited visited [] (ScansLine tree inner path above text) := by
  apply addsFrom_nothing
  rintro progress after ⟨pending, next, tracked, step⟩
  have goesOn := tracked.isOpen.trans opened
  cases step with
  | closes ends closed => exact ⟨visited_of_closeBlock closed, routines_of_closeBlock closed⟩
  | collects => exact ⟨rfl, rfl⟩
  | ignores | includes | begins | labels | passes => cases goesOn

/-- Outside of macros the comments above are pending. -/
theorem Tracks.eq_comments {pending : Pending} (tracked : Tracks above pending)
    (outside : leavesOpen above = false) : pending = .comments (commentsAbove above) := by
  cases pending with
  | block block => cases tracked.isOpen.trans outside
  | comments comments => rw [tracked.comments comments rfl]

theorem addsFrom_quiet (outside : leavesOpen above = false)
    (excluded : ∀ target, landmark? (Text.trim text) ≠ some (.inclusion target))
    (unlabelled : ∀ name, landmark? (Text.trim text) ≠ some (.label name)) :
    AddsFrom tree path visited visited [] (ScansLine tree inner path above text) := by
  apply addsFrom_nothing
  rintro progress after ⟨pending, next, tracked, step⟩
  cases tracked.eq_comments outside
  cases step.after_eq excluded unlabelled
  exact ⟨rfl, rfl⟩

/-- A label adds its routine, if it is documented. -/
theorem addsFrom_label (read : tree.readLines path = .ok (above ++ text :: rest)) {name : Text}
    (label : GlobalLabel (above ++ text :: rest) above.length name) :
    AddsFrom tree path visited visited (routineBehind path above name).toList
      (ScansLine tree inner path above text) where
  adds := by
    rintro progress after rfl ⟨pending, next, tracked, step⟩
    obtain ⟨outside, mark⟩ := globalLabel_iff.1 label
    cases tracked.eq_comments outside
    rw [step.after_of_label mark]
    exact adds_documentLabel path above name progress
  sourced := by
    intro routine member
    exact ⟨path, _, above.length, .refl, read,
      documentedAt_of_routineBehind label (Option.mem_toList.1 member)⟩

/-- **What one line adds** depends on the line, those above it, and the places that have been
visited.  For a label it is the routine of the label. -/
theorem exists_added_line (within : AddsToFiles tree inner)
    (read : tree.readLines path = .ok (above ++ text :: rest)) (visited : List Route) :
    ∃ places documented,
      AddsFrom tree path visited places documented (ScansLine tree inner path above text) ∧
      ∀ name, GlobalLabel (above ++ text :: rest) above.length name →
        documented = (routineBehind path above name).toList := by
  cases outside : leavesOpen above with
  | true =>
    refine ⟨visited, [], addsFrom_within_macro outside, ?_⟩
    intro name label
    cases (globalLabel_iff.1 label).1.symm.trans outside
  | false =>
    by_cases included : ∃ target, landmark? (Text.trim text) = some (.inclusion target)
    · obtain ⟨target, mark⟩ := included
      have reaches : ∀ other, resolve? tree path.parent target = some other →
          Includes tree path other := by
        intro other found
        exact ⟨_, target, read, mem_inclusions_of_landmark outside mark, found⟩
      obtain ⟨places, documented, added⟩ := exists_added_inclusion within reaches visited
      refine ⟨places, documented, ⟨?_, added.sourced⟩, ?_⟩
      · rintro progress after begins ⟨pending, next, tracked, step⟩
        cases tracked.eq_comments outside
        exact added.adds begins (step.inclusionStep rfl mark)
      · intro name label
        cases (globalLabel_iff.1 label).2.symm.trans mark
    · by_cases labelled : ∃ name, landmark? (Text.trim text) = some (.label name)
      · obtain ⟨name, mark⟩ := labelled
        refine ⟨visited, _, addsFrom_label read (globalLabel_iff.2 ⟨outside, mark⟩), ?_⟩
        intro other label
        cases (globalLabel_iff.1 label).2.symm.trans mark
        rfl
      · have unlabelled := not_exists.1 labelled
        refine ⟨visited, [], addsFrom_quiet outside (not_exists.1 included) unlabelled, ?_⟩
        intro name label
        exact absurd (globalLabel_iff.1 label).2 (unlabelled name)

/-! ## Files -/

/-- No documented label of the lines from this number on is missing among the routines. -/
def Complete (lines : List Text) (number : Nat) (documented : List Routine) : Prop :=
  ∀ index name, number ≤ index → GlobalLabel lines index name →
    (summaryAbove lines index).isSilent = false → ∃ routine ∈ documented, routine.name = name

/-- **What the lines of a file add**, by induction on the lines that are left. -/
theorem exists_added_lines (within : AddsToFiles tree inner)
    (read : tree.readLines path = .ok (above ++ rest)) (visited : List Route) :
    ∃ places documented,
      (AddsFrom tree path visited places documented fun progress after =>
        ∃ pending, Tracks above pending ∧
          scanLines tree inner (some path.parent) (some path.text) above.length rest pending
            progress = .ok after) ∧
      Complete (above ++ rest) above.length documented := by
  induction rest generalizing above visited with
  | nil =>
    refine ⟨visited, [], addsFrom_nothing ?_, ?_⟩
    · rintro progress after ⟨pending, -, scanned⟩
      cases scanned
      cases pending <;> exact ⟨rfl, rfl⟩
    · rintro index name beyond ⟨text, found, -⟩
      rw [List.append_nil, List.getElem?_eq_none beyond] at found
      cases found
  | cons text rest ih =>
    obtain ⟨places, first, line, label⟩ := exists_added_line within read visited
    rw [← List.singleton_append, ← List.append_assoc] at read
    obtain ⟨later, others, lines, complete⟩ := ih read places
    rw [List.append_assoc, List.singleton_append, List.length_append, List.length_singleton]
      at complete
    refine ⟨later, first ++ others, ⟨?_, ?_⟩, ?_⟩
    · rintro progress after begins ⟨pending, tracked, scanned⟩
      obtain ⟨⟨next, middle⟩, here, scanned⟩ := Fault.bind_eq_ok.1 scanned
      have step := lineStep_of_scanLine here
      have adds := line.adds begins ⟨pending, next, tracked, step⟩
      refine adds.trans (lines.adds adds.visited ⟨next, step.tracks tracked, ?_⟩)
      rw [List.length_append]
      exact scanned
    · intro routine member
      exact (List.mem_append.1 member).elim (line.sourced routine) (lines.sourced routine)
    · intro index name reached found spoken
      rcases Nat.eq_or_lt_of_le reached with rfl | behind
      · have before : (above ++ text :: rest).take above.length = above := by simp
        rw [summaryAbove, before] at spoken
        rw [label name found, routineBehind, spoken]
        exact ⟨_, List.mem_cons_self, rfl⟩
      · obtain ⟨routine, member, named⟩ := complete index name behind found spoken
        exact ⟨routine, List.mem_append_right first member, named⟩

end Lines

/-- Included files add what they add, to whatever depth they are scanned. -/
theorem addsToFiles_scanTo (tree : FileTree) (depth : Nat) :
    AddsToFiles tree (scanTo tree depth) := by
  induction depth with
  | zero =>
    intro path lines visited read
    refine ⟨visited, [], addsFrom_nothing ?_⟩
    intro progress after scanned
    cases scanned
    exact ⟨rfl, rfl⟩
  | succ depth ih =>
    intro path lines visited read
    have whole : tree.readLines path = .ok ([] ++ lines) := read
    obtain ⟨places, documented, added, -⟩ := exists_added_lines ih whole visited
    refine ⟨places, documented, ?_, added.sourced⟩
    intro progress after begins scanned
    exact added.adds begins ⟨.comments [], tracks_nil, scanned⟩

/-- **There is one list of routines that a scan of a file registers**, whatever is known when it
begins.  Each is documented in the file or in one that it includes, and no documented label of the
file is missing. -/
theorem exists_added {tree : FileTree} {path : Path} {lines : List Text}
    (read : tree.readLines path = .ok lines) :
    ∃ documented, (∀ (scanner : Scanner) (progress : Progress),
        scanner.scan tree lines (some path.parent) (some path.text) = .ok progress →
        progress.scanner.routines = documented.foldl Registry.register scanner.routines) ∧
      (∀ routine ∈ documented, DocumentedFrom tree path routine) ∧
      Complete lines 0 documented := by
  have whole : tree.readLines path = .ok ([] ++ lines) := read
  obtain ⟨places, documented, added, complete⟩ :=
    exists_added_lines (addsToFiles_scanTo tree tree.nodes.length) whole
      (documentPlace tree (some path.text)).toList
  refine ⟨documented, ?_, added.sourced, complete⟩
  intro scanner progress scanned
  rw [Scanner.scan_eq] at scanned
  obtain ⟨begun, started, scanned⟩ := Fault.bind_eq_ok.1 scanned
  have adds := added.adds (Scanner.visited_of_start started) ⟨.comments [], tracks_nil, scanned⟩
  rw [adds.routines, Scanner.scanner_of_start started]

end Scan

end Sm83Cost
