import Mathlib.Data.List.Forall2
import Sm83Cost.Proofs.File.Directory
import Sm83Cost.Proofs.Scan.OpenedFiles

/-!
# The files that a scan reaches

Which files a scan opens, and under which paths, depends on the order of their
lines.  Which files it has visited at its end does not: they are those that can
be reached from the document by included files (`visited_iff_reached`).
`Reached` says so for places alone, without a scan and without paths: a file is
looked for from the directory of the file that includes it, and lines of macros
do not count.

There is one exception.  A file that is first included by a very long path is
scanned under that path, and what it includes may then be at paths of too many
bytes.  The scan does not find it and does not come back to the file either, so
it misses what a shorter path would have led to (`long_spelling_hides_file`).
It notes the paths that it cannot look at, so one can tell from the journal.
-/

namespace Sm83Cost.Scan

set_option autoImplicit false

/-! ## Lines that include a file -/

/-- The targets of included files in lines, where `within` tells that the lines begin in a
macro. -/
def inclusionsFrom : (within : Bool) → List Text → List Text
  | _, [] => []
  | true, text :: rest => inclusionsFrom (!isMacroEnd (Text.trim text)) rest
  | false, text :: rest =>
    match landmark? (Text.trim text) with
    | some (.inclusion target) => target :: inclusionsFrom false rest
    | some (.header _) => inclusionsFrom true rest
    | _ => inclusionsFrom false rest

/-- The targets of included files in the lines of a file, outside of macros. -/
def inclusions (lines : List Text) : List Text :=
  inclusionsFrom false lines

/-- A macro has not ended. -/
def Pending.isOpen : Pending → Bool
  | .block _ => true
  | .comments _ => false

@[simp]
theorem isOpen_block (block : Block) : (Pending.block block).isOpen = true := rfl

@[simp]
theorem isOpen_comments (comments : List Text) : (Pending.comments comments).isOpen = false := rfl

@[simp]
theorem isOpen_pendingAfter (comments : List Text) (line : Line) :
    (pendingAfter comments line).isOpen = false := by
  unfold pendingAfter
  split <;> rfl

/-- A line includes a file outside of macros, or it does not and leaves open what it should. -/
theorem mem_inclusionsFrom_cons {tree : FileTree} {scan : LineScan} {directory : Option Path}
    {file : Option Text} {number : Nat} {text target : Text} {rest : List Text}
    {pending next : Pending} {progress after : Progress}
    (step : LineStep tree scan directory file number text pending progress next after) :
    target ∈ inclusionsFrom pending.isOpen (text :: rest) ↔
      pending.isOpen = false ∧ landmark? (Text.trim text) = some (.inclusion target) ∨
        target ∈ inclusionsFrom next.isOpen rest := by
  cases step with
  | closes ends closed => simp [inclusionsFrom, ends]
  | collects goesOn => simp [inclusionsFrom, goesOn]
  | ignores mark nowhere => simp [inclusionsFrom, mark, eq_comm]
  | includes mark given inclusion => simp [inclusionsFrom, mark, eq_comm]
  | begins mark => simp [inclusionsFrom, mark]
  | labels mark => simp [inclusionsFrom, mark]
  | passes mark parsed => simp [inclusionsFrom, mark]

/-! ## What a run leaves behind -/

/-- Nothing visited or noted is lost. -/
structure Progress.Extends (earlier later : Progress) : Prop where
  visited : earlier.visited ⊆ later.visited
  journal : earlier.journal ⊆ later.journal

theorem Progress.Extends.refl (progress : Progress) : progress.Extends progress :=
  ⟨List.Subset.refl _, List.Subset.refl _⟩

theorem Progress.Extends.trans {earlier middle later : Progress}
    (first : earlier.Extends middle) (second : middle.Extends later) : earlier.Extends later :=
  ⟨List.Subset.trans first.visited second.visited,
    List.Subset.trans first.journal second.journal⟩

theorem Progress.extends_note (progress : Progress) (records : List Record) :
    progress.Extends (progress.note records) :=
  ⟨List.Subset.refl _, List.subset_append_left _ _⟩

theorem Progress.extends_visit (progress : Progress) (place : Route) :
    progress.Extends (progress.visit place) :=
  ⟨List.subset_append_left _ _, List.Subset.refl _⟩

/-- An inclusion has been dealt with: what was noted on the way to the file is in the journal,
and a file that is found has been visited. -/
structure Settled (tree : FileTree) (directory : Path) (target : Text) (progress : Progress) :
    Prop where
  noted : lookupNotes tree directory target ⊆ progress.journal
  visited : ∀ path, resolve? tree directory target = some path →
    tree.canonical path ∈ progress.visited

theorem Settled.mono {tree : FileTree} {directory : Path} {target : Text}
    {progress later : Progress} (settled : Settled tree directory target progress)
    (kept : progress.Extends later) : Settled tree directory target later :=
  ⟨List.Subset.trans settled.noted kept.journal,
    fun path found => kept.visited (settled.visited path found)⟩

theorem extends_of_closeBlock {block : Block} {number : Nat} {progress after : Progress}
    (closed : closeBlock block number progress = .ok after) : progress.Extends after := by
  unfold closeBlock at closed
  dsimp only at closed
  split at closed
  · cases closed
  · split at closed
    · cases closed
    · cases closed
      refine ⟨List.Subset.refl _, fun record listed => ?_⟩
      simp [Progress.note, Progress.addMacro, listed]

theorem extends_documentLabel (file : Option Text) (name : Text) (number : Nat)
    (comments : List Text) (progress : Progress) :
    progress.Extends (documentLabel file name number comments progress) := by
  unfold documentLabel
  dsimp only
  split
  · exact .refl progress
  · refine ⟨List.Subset.refl _, fun record listed => ?_⟩
    simp [Progress.note, Progress.addRoutine, listed]

section Runs

variable {tree : FileTree} {directory : Option Path} {file : Option Text} {number nesting : Nat}
  {text : Text} {lines : List Text} {pending next : Pending}
  {progress middle entered final : Progress} {outcome : Except Stopped Progress} {path : Path}
  {opened : List Path}

/-- A line that opens no file loses nothing, and settles the inclusion that it may be. -/
theorem settled_of_stays
    (line : ∀ scan, scanLine tree scan directory file number text pending progress =
      .ok (next, middle)) :
    progress.Extends middle ∧ ∀ base ∈ directory, pending.isOpen = false →
      ∀ target, landmark? (Text.trim text) = some (.inclusion target) →
        Settled tree base target middle := by
  have same := Progress.Extends.refl progress
  cases lineStep_of_scanLine (line refuse) with
  | closes ends closed => exact ⟨extends_of_closeBlock closed, fun _ _ closed => nomatch closed⟩
  | collects goesOn => exact ⟨same, fun _ _ closed => nomatch closed⟩
  | ignores mark nowhere =>
    subst nowhere
    exact ⟨same, fun base given => nomatch given⟩
  | @includes _ _ _ named base mark given step =>
    subst given
    have settled : progress.Extends middle ∧ Settled tree base named middle := by
      cases step with
      | missing nowhere =>
        refine ⟨(Progress.extends_note _ _).trans (Progress.extends_note _ _), ?_, ?_⟩
        · intro record listed
          simp [Progress.note, listed]
        · intro path found
          cases nowhere.symm.trans found
      | known found visited =>
        refine ⟨Progress.extends_note _ _, List.subset_append_right _ _, ?_⟩
        intro path again
        cases found.symm.trans again
        exact visited
      | unreadable found fresh failed =>
        obtain ⟨lines, read⟩ := readLines_of_resolve found
        cases failed.symm.trans read
      | opened found fresh read scanned => cases scanned
    refine ⟨settled.1, fun other given _ target again => ?_⟩
    cases given
    cases mark.symm.trans again
    exact settled.2
  | begins mark => exact ⟨same, fun _ _ _ target again => nomatch mark.symm.trans again⟩
  | labels mark =>
    exact ⟨extends_documentLabel .., fun _ _ _ target again => nomatch mark.symm.trans again⟩
  | passes mark parsed => exact ⟨same, fun _ _ _ target again => nomatch mark.symm.trans again⟩

theorem Opens.extends (opens : Opens tree directory text pending progress path lines entered) :
    progress.Extends entered := by
  cases opens
  exact ((Progress.extends_note _ _).trans (Progress.extends_visit _ _)).trans
    (Progress.extends_note _ _)

/-- A line that opens a file settles its inclusion. -/
theorem Opens.settled (opens : Opens tree directory text pending progress path lines entered) :
    ∃ base target, directory = some base ∧ pending.isOpen = false ∧
      landmark? (Text.trim text) = some (.inclusion target) ∧
      resolve? tree base target = some path ∧ Settled tree base target entered := by
  have visited := opens.visited
  cases opens with
  | inclusion mark found fresh read =>
    refine ⟨_, _, rfl, rfl, mark, found, fun record listed => ?_, fun other again => ?_⟩
    · simp [Progress.entering, Progress.note, Progress.visit, listed]
    · cases found.symm.trans again
      rw [visited]
      exact List.mem_append_right _ List.mem_cons_self

/-- The inclusions of a line that opens a file and of the lines behind it. -/
theorem Opens.mem_inclusionsFrom
    (opens : Opens tree directory text pending progress path lines entered)
    {target : Text} {rest : List Text} :
    target ∈ inclusionsFrom pending.isOpen (text :: rest) ↔
      landmark? (Text.trim text) = some (.inclusion target) ∨ target ∈ inclusions rest := by
  cases opens with
  | inclusion mark found fresh read => simp [inclusionsFrom, inclusions, mark, eq_comm]

theorem Run.extends
    (run : Run tree directory file number lines pending progress outcome nesting opened)
    (ended : outcome = .ok final) : progress.Extends final := by
  induction run generalizing final with
  | @ends _ _ _ pending progress =>
    cases ended
    cases pending with
    | block block => exact Progress.extends_note _ _
    | comments comments => exact .refl progress
  | stays line others ih => exact (settled_of_stays line).1.trans (ih ended)
  | stops line => cases ended
  | enters opens inner others ihInner ihOthers =>
    exact (opens.extends.trans (ihInner rfl)).trans (ihOthers ended)
  | stopsWithin opens inner ih => cases ended

/-- **A run settles every inclusion of its lines.** -/
theorem Run.settles
    (run : Run tree directory file number lines pending progress outcome nesting opened)
    (ended : outcome = .ok final) :
    ∀ base ∈ directory, ∀ target ∈ inclusionsFrom pending.isOpen lines,
      Settled tree base target final := by
  induction run generalizing final with
  | @ends _ _ _ pending progress =>
    intro base given target listed
    cases pending <;> exact absurd listed List.not_mem_nil
  | stays line others ih =>
    intro base given target listed
    rcases (mem_inclusionsFrom_cons (lineStep_of_scanLine (line refuse))).1 listed with
      ⟨outside, mark⟩ | later
    · exact ((settled_of_stays line).2 base given outside target mark).mono (others.extends ended)
    · exact ih ended base given target later
  | stops line => cases ended
  | enters opens inner others ihInner ihOthers =>
    intro base given target listed
    rcases opens.mem_inclusionsFrom.1 listed with mark | later
    · obtain ⟨same, named, rfl, -, again, -, settled⟩ := opens.settled
      cases given
      cases mark.symm.trans again
      exact settled.mono ((inner.extends rfl).trans (others.extends ended))
    · exact ihOthers ended base given target later
  | stopsWithin opens inner ih => cases ended

/-- **A run settles every inclusion of the files that it opens.** -/
theorem Run.settles_opened
    (run : Run tree directory file number lines pending progress outcome nesting opened)
    (ended : outcome = .ok final) :
    ∀ path ∈ opened, ∀ found, tree.readLines path = .ok found →
      ∀ target ∈ inclusions found, Settled tree path.parent target final := by
  induction run generalizing final with
  | ends => exact fun path member => absurd member List.not_mem_nil
  | stays line others ih => exact ih ended
  | stops line => cases ended
  | enters opens inner others ihInner ihOthers =>
    intro path member found read target listed
    have kept := others.extends ended
    rcases List.mem_cons.1 member with rfl | later
    · cases opens.read.symm.trans read
      exact (inner.settles rfl _ rfl target listed).mono kept
    · rcases List.mem_append.1 later with inside | after
      · exact (ihInner rfl path inside found read target listed).mono kept
      · exact ihOthers ended path after found read target listed
  | stopsWithin opens inner ih => cases ended

/-- **A run opens nothing but what its lines include, and what that includes in turn.**  So what
holds of the former and is handed on to the latter holds of every path that is opened. -/
theorem Run.opened_induction {holds : Path → Prop}
    (run : Run tree directory file number lines pending progress outcome nesting opened)
    (first : ∀ base ∈ directory, ∀ target ∈ inclusionsFrom pending.isOpen lines,
      ∀ path, resolve? tree base target = some path → holds path)
    (onward : ∀ path ∈ opened, holds path → ∀ found, tree.readLines path = .ok found →
      ∀ target ∈ inclusions found, ∀ next, resolve? tree path.parent target = some next →
        holds next) :
    ∀ path ∈ opened, holds path := by
  induction run with
  | ends => exact fun path member => absurd member List.not_mem_nil
  | stays line others ih =>
    refine ih (fun base given target listed => first base given target ?_) onward
    exact (mem_inclusionsFrom_cons (lineStep_of_scanLine (line refuse))).2 (.inr listed)
  | stops line => exact fun path member => absurd member List.not_mem_nil
  | enters opens inner others ihInner ihOthers =>
    obtain ⟨base, named, given, -, mark, found, -⟩ := opens.settled
    have here := first base given named (opens.mem_inclusionsFrom.2 (.inl mark)) _ found
    have inside := ihInner
      (fun same parent target listed => by
        cases parent
        exact onward _ List.mem_cons_self here _ opens.read target listed)
      fun path member => onward path (List.mem_cons_of_mem _ (List.mem_append_left _ member))
    have after := ihOthers
      (fun same given target listed =>
        first same given target (opens.mem_inclusionsFrom.2 (.inr listed)))
      fun path member => onward path (List.mem_cons_of_mem _ (List.mem_append_right _ member))
    intro path member
    rcases List.mem_cons.1 member with rfl | later
    · exact here
    · exact (List.mem_append.1 later).elim (inside path) (after path)
  | stopsWithin opens inner ih =>
    obtain ⟨base, named, given, -, mark, found, -⟩ := opens.settled
    have here := first base given named (opens.mem_inclusionsFrom.2 (.inl mark)) _ found
    have inside := ih
      (fun same parent target listed => by
        cases parent
        exact onward _ List.mem_cons_self here _ opens.read target listed)
      fun path member => onward path (List.mem_cons_of_mem _ member)
    intro path member
    rcases List.mem_cons.1 member with rfl | later
    · exact here
    · exact inside path later

end Runs

/-! ## Where files are looked for -/

/-- No path that cannot be looked at would lead to a file if it could. -/
def HidesNothing (tree : FileTree) (journal : List Record) : Prop :=
  ∀ path error, Record.unusablePath path error ∈ journal → tree.fileAt? path = none

/-- The first file that one of the paths leads to, if every path could be looked at. -/
theorem canonical_firstFile {tree : FileTree} {paths : List Path}
    (looked : HidesNothing tree (firstFile tree paths).2) :
    (firstFile tree paths).1.map tree.canonical = paths.findSome? tree.fileAt? := by
  induction paths with
  | nil => rfl
  | cons path rest ih =>
    rw [firstFile] at looked ⊢
    rw [List.findSome?_cons]
    cases judged : tree.isFile path with
    | error error =>
      rw [judged] at looked
      rw [looked path error List.mem_cons_self]
      exact ih fun other error listed => looked other error (List.mem_cons_of_mem _ listed)
    | ok present =>
      rw [judged] at looked
      cases present with
      | true =>
        rw [FileTree.fileAt?_of_isFile judged]
        rfl
      | false =>
        rw [FileTree.fileAt?_of_not_isFile judged]
        exact ih looked

/-- The file that is meant where a target is included, seen from the directory that names lead to
from a place.  A target that begins at the root leads to its file by itself.  Another one is
followed from the directory, and then from those below it in which included files are kept; the
first file counts. -/
def sought? (tree : FileTree) (here : Route) (names : List Text) (target : Text) : Option Route :=
  let file := Path.ofText target
  if file.isAbsolute then tree.fileAt? file
  else ([] :: subdirectories.map fun name => [name]).findSome? fun below =>
    tree.fileFrom? here (names ++ below ++ file.parts)

/-- The paths at which an included file is looked for lead to the file that is meant. -/
theorem findSome?_places (tree : FileTree) (base : Path) (target : Text) :
    (places base target).findSome? tree.fileAt? =
      sought? tree (tree.start base.isAbsolute) base.parts target := by
  rw [places, sought?]
  cases absolute : (Path.ofText target).isAbsolute with
  | true =>
    simp only [Path.join_of_isAbsolute _ absolute, if_true, List.findSome?_cons]
    cases found : tree.fileAt? (Path.ofText target) with
    | some route => rfl
    | none =>
      rw [List.findSome?_eq_none_iff]
      intro path member
      obtain ⟨name, -, rfl⟩ := List.mem_map.1 member
      exact found
  | false =>
    have single (name : Text) : ({ parts := [name] } : Path).isAbsolute = false := rfl
    simp only [FileTree.fileAt?, List.findSome?_cons, List.findSome?_map, Function.comp_def,
      Path.isAbsolute_join _ absolute, Path.parts_join _ absolute,
      Path.isAbsolute_join _ (single _), Path.parts_join _ (single _), List.append_nil,
      if_neg Bool.false_ne_true]

/-- **An included file is found at the place that is meant**, if every path could be looked at. -/
theorem canonical_resolve {tree : FileTree} {base : Path} {target : Text}
    (looked : HidesNothing tree (lookupNotes tree base target)) :
    (resolve? tree base target).map tree.canonical =
      sought? tree (tree.start base.isAbsolute) base.parts target :=
  (canonical_firstFile looked).trans (findSome?_places tree base target)

/-- Names that lead to a directory may be replaced by the directory itself. -/
theorem sought?_of_follow {tree : FileTree} {here there : Route} {names : List Text}
    (clean : ∀ name ∈ names, Char.ofNat 0 ∉ name)
    (followed : tree.follow here names = .ok there) (target : Text) :
    sought? tree here names target = sought? tree there [] target := by
  simp only [sought?, List.append_assoc, FileTree.fileFrom?_append clean followed, List.nil_append]

/-- From whatever path a file was found under, what it includes is looked for from its own
directory. -/
theorem canonical_resolve_parent {tree : FileTree} {path : Path} {target : Text}
    {bytes : List UInt8} {route : Route} (located : tree.locate path = .ok route)
    (isFile : tree.node? route = some (.file bytes))
    (looked : HidesNothing tree (lookupNotes tree path.parent target)) :
    (resolve? tree path.parent target).map tree.canonical =
      sought? tree route.dropLast [] target := by
  obtain ⟨clean, followed⟩ := FileTree.follow_parent located isFile
  rw [canonical_resolve looked, sought?_of_follow clean followed]

/-! ## Reached files -/

/-- The places of the files that can be reached from a document by included files, without going
on from the document's own place. -/
inductive Reached (tree : FileTree) (lines : List Text) (directory : Option Path)
    (own : Option Route) : Route → Prop where
  /-- The document includes the file. -/
  | first {base : Path} {target : Text} {there : Route} (given : base ∈ directory)
      (listed : target ∈ inclusions lines)
      (found : sought? tree (tree.start base.isAbsolute) base.parts target = some there) :
      Reached tree lines directory own there
  /-- A file that is reached includes the file. -/
  | next {here there : Route} {bytes : List UInt8} {target : Text}
      (reached : Reached tree lines directory own here) (other : here ∉ own)
      (isFile : tree.node? here = some (.file bytes))
      (listed : target ∈ inclusions (Text.lines (Text.Utf8.decode bytes)))
      (found : sought? tree here.dropLast [] target = some there) :
      Reached tree lines directory own there

section Documents

variable {scanner : Scanner} {tree : FileTree} {lines : List Text} {directory : Option Path}
  {file : Option Text} {progress : Progress} {nesting : Nat} {opened : List Path}

/-- The places visited in the end. -/
theorem DocumentRun.mem_visited_iff
    (run : DocumentRun scanner tree lines directory file (.ok progress) nesting opened)
    {place : Route} :
    place ∈ progress.visited ↔
      place ∈ documentPlace tree file ∨ ∃ path ∈ opened, tree.canonical path = place := by
  cases run with
  | scanned started run =>
    have visited := run.visited
    rw [lastProgress, Scanner.visited_of_start started] at visited
    rw [visited, List.mem_append, Option.mem_toList, List.mem_map]
    exact Iff.rfl

/-- Every place visited is reached. -/
theorem DocumentRun.reached_of_mem
    (run : DocumentRun scanner tree lines directory file (.ok progress) nesting opened)
    (looked : HidesNothing tree progress.journal) :
    ∀ path ∈ opened,
      Reached tree lines directory (documentPlace tree file) (tree.canonical path) := by
  have nodup := run.nodup
  cases run with
  | scanned started run =>
    refine run.opened_induction (fun base given target listed path found => ?_)
      fun path member reached content read target listed next found => ?_
    · have noted := (run.settles rfl base given target listed).noted
      refine .first given listed ?_
      rw [← canonical_resolve fun path error listed => looked path error (noted listed), found]
      rfl
    · have other : tree.canonical path ∉ documentPlace tree file := fun own =>
        (List.nodup_append.1 nodup).2.2 _ (Option.mem_toList.2 own) _
          (List.mem_map_of_mem member) rfl
      have noted := (run.settles_opened rfl path member content read target listed).noted
      obtain ⟨route, bytes, located, isFile, rfl⟩ := FileTree.readLines_eq_ok.1 read
      have place := FileTree.canonical_of_locate located
      rw [place] at reached other
      refine .next reached other isFile listed ?_
      rw [← canonical_resolve_parent located isFile fun path error listed =>
        looked path error (noted listed), found]
      rfl

/-- Every place reached is visited. -/
theorem DocumentRun.mem_of_reached
    (run : DocumentRun scanner tree lines directory file (.ok progress) nesting opened)
    (looked : HidesNothing tree progress.journal) {place : Route}
    (reached : Reached tree lines directory (documentPlace tree file) place) :
    place ∈ progress.visited := by
  have visited := @run.mem_visited_iff
  have files := run.files
  cases run with
  | scanned started run =>
    induction reached with
    | @first base target there given listed found =>
      have settled := run.settles rfl base given target listed
      rw [← canonical_resolve fun path error listed => looked path error (settled.noted listed),
        Option.map_eq_some_iff] at found
      obtain ⟨path, resolved, rfl⟩ := found
      exact settled.visited path resolved
    | @next here there bytes target reached other isFile listed found ih =>
      obtain own | ⟨path, member, rfl⟩ := visited.1 ih
      · exact absurd own other
      · obtain ⟨content, read⟩ := files path member
        obtain ⟨route, others, located, isFile', rfl⟩ := FileTree.readLines_eq_ok.1 read
        rw [FileTree.canonical_of_locate located] at isFile found
        cases isFile.symm.trans isFile'
        have settled := run.settles_opened rfl path member _ read _ listed
        rw [← canonical_resolve_parent located isFile fun path error listed =>
          looked path error (settled.noted listed), Option.map_eq_some_iff] at found
        obtain ⟨again, resolved, rfl⟩ := found
        exact settled.visited again resolved

end Documents

/-- **A scan visits the document and what can be reached from it**, if no path that it cannot look
at would lead to a file. -/
theorem visited_iff_reached (scanner : Scanner) (tree : FileTree) (lines : List Text)
    (directory : Option Path) (file : Option Text) {progress : Progress}
    (scanned : scanner.scan tree lines directory file = .ok progress)
    (looked : HidesNothing tree progress.journal) (place : Route) :
    place ∈ progress.visited ↔
      place ∈ documentPlace tree file ∨
        Reached tree lines directory (documentPlace tree file) place := by
  obtain ⟨nesting, opened, run⟩ := exists_documentRun scanner tree lines directory file
  rw [scanned] at run
  constructor
  · intro member
    rcases run.mem_visited_iff.1 member with own | ⟨path, listed, rfl⟩
    · exact .inl own
    · exact .inr (run.reached_of_mem looked path listed)
  · rintro (own | reached)
    · exact run.mem_visited_iff.2 (.inl own)
    · exact run.mem_of_reached looked reached

/-- Two files include one another, one from the root and one by a way up out of the working
directory.  The document is given from the root and included by its name.  A file that is included
only in the body of a macro is not reached. -/
theorem visited_iff_reached_cycle :
    let file (lines : List String) : Node :=
      .file ((String.intercalate "\n" lines).toList.map fun c => c.toNat.toUInt8)
    let home : Route := ["w".toList]
    let tree : FileTree := { home, nodes := [
      (home ++ ["a.inc".toList], file ["INCLUDE \"/w/lib/b.inc\"", "INCLUDE \"main.asm\""]),
      (home ++ ["lib".toList, "b.inc".toList], file ["INCLUDE \"../../w/a.inc\""]),
      (home ++ ["c.inc".toList], file ["INCLUDE \"a.inc\""]),
      (home ++ ["main.asm".toList], file ["INCLUDE \"c.inc\""])] }
    let lines : List Text := ["Hide: MACRO".toList, "INCLUDE \"c.inc\"".toList, "ENDM".toList,
      "INCLUDE \"a.inc\"".toList]
    let directory : Option Path := some (Path.ofText ".")
    let reached := Reached tree lines directory (documentPlace tree (some "/w/main.asm".toList))
    reached (home ++ ["lib".toList, "b.inc".toList]) ∧ ¬ reached (home ++ ["c.inc".toList]) := by
  intro file home tree lines directory reached
  have outcome : (Scanner.scan {} tree lines directory (some "/w/main.asm".toList)).toOption.map
      (fun progress => (progress.visited,
        progress.journal.all fun record => !(record matches .unusablePath _ _))) =
      some ([home ++ ["main.asm".toList], home ++ ["a.inc".toList],
        home ++ ["lib".toList, "b.inc".toList]], true) := by decide +kernel
  cases scanned : Scanner.scan {} tree lines directory (some "/w/main.asm".toList) with
  | error stopped =>
    rw [scanned] at outcome
    cases outcome
  | ok progress =>
    rw [scanned, Except.toOption, Option.map_some, Option.some_inj, Prod.mk.injEq] at outcome
    obtain ⟨visited, usable⟩ := outcome
    have looked : HidesNothing tree progress.journal := by
      intro path error listed
      have refused := List.all_eq_true.1 usable _ listed
      cases refused
    have exactly := visited_iff_reached {} tree lines directory (some "/w/main.asm".toList)
      scanned looked
    rw [visited] at exactly
    constructor
    · exact ((exactly _).1 (by decide)).resolve_left (by decide)
    · intro member
      exact absurd ((exactly _).2 (.inr member)) (by decide)

/-- A file is first included by a long detour, and then by its name.  The file that it includes is
looked for at the end of the detour, where its path is too long, and never again. -/
theorem long_spelling_hides_file :
    let folder : Text := List.replicate 251 'd'
    let detour : Text := (List.replicate 16 (folder ++ "/../".toList)).flatten ++ "io.inc".toList
    let file (line : String) : Node := .file (line.toList.map fun c => c.toNat.toUInt8)
    let tree : FileTree := { nodes := [([folder], .directory),
      (["io.inc".toList], file "INCLUDE \"memory_constants.inc\""),
      (["memory_constants.inc".toList], file "Wait: MACRO\n nop\nENDM")] }
    let lines : List Text :=
      ["INCLUDE \"".toList ++ detour ++ "\"".toList, "INCLUDE \"io.inc\"".toList]
    let directory : Option Path := some (Path.ofText ".")
    ∃ progress, Scanner.scan {} tree lines directory none = .ok progress ∧
      ∃ place, Reached tree lines directory (documentPlace tree none) place ∧
        place ∉ progress.visited := by
  intro folder detour file tree lines directory
  have outcome : (Scanner.scan {} tree lines directory none).toOption.map Progress.visited =
      some [["io.inc".toList]] := by decide +kernel
  have here : Reached tree lines directory (documentPlace tree none) ["io.inc".toList] :=
    .first rfl (show "io.inc".toList ∈ inclusions lines by decide +kernel) (by decide +kernel)
  have behind : Reached tree lines directory (documentPlace tree none)
      ["memory_constants.inc".toList] :=
    .next here nofun rfl (show "memory_constants.inc".toList ∈ _ by decide +kernel)
      (by decide +kernel)
  cases scanned : Scanner.scan {} tree lines directory none with
  | error stopped =>
    rw [scanned] at outcome
    cases outcome
  | ok progress =>
    rw [scanned, Except.toOption, Option.map_some, Option.some_inj] at outcome
    exact ⟨progress, rfl, _, behind, by rw [outcome]; decide⟩

end Sm83Cost.Scan
