import Sm83Cost.Scan.Document

/-!
# What one line of a scan can do

A scan goes line by line, and each line does one of seven things: it closes a
macro or is collected into one, it includes a file or would if there were a
directory to look in, it begins a macro, it is a label, or it is none of these.
`LineStep` lists them with what each needs and what it changes, and
`lineStep_of_scanLine` says that a line that is scanned successfully does one of
them.  `InclusionStep` does the same for an included file, which is missing,
known already, unreadable, or scanned.

What the scan of an included file does is a parameter of both, so nothing here
depends on how deep included files are followed.
-/

namespace Sm83Cost.Scan

set_option autoImplicit false

/-! ## Included files -/

/-- The path at which an included file is found. -/
def resolve? (tree : FileTree) (directory : Path) (target : Text) : Option Path :=
  (firstFile tree (places directory target)).1

/-- The notes on paths that cannot be looked at on the way to an included file. -/
def lookupNotes (tree : FileTree) (directory : Path) (target : Text) : List Record :=
  (firstFile tree (places directory target)).2

/-- The progress with which the file at a path is scanned when it is included: the path is
visited, and that is noted. -/
def Progress.entering (progress : Progress) (tree : FileTree) (notes : List Record) (path : Path) :
    Progress :=
  ((progress.note notes).visit (tree.canonical path)).note [.includeScanned path]

section Equations

variable {tree : FileTree} {directory path : Path} {target : Text} {progress : Progress}

theorem scanInclusion_of_missing (scan : LineScan)
    (nowhere : resolve? tree directory target = none) :
    scanInclusion tree scan directory target progress =
      .ok ((progress.note (lookupNotes tree directory target)).note
        [.includeMissing target directory]) := by
  rw [resolve?] at nowhere
  simp only [scanInclusion, nowhere]
  rfl

theorem scanInclusion_of_known (scan : LineScan)
    (found : resolve? tree directory target = some path)
    (visited : tree.canonical path ∈ progress.visited) :
    scanInclusion tree scan directory target progress =
      .ok (progress.note (lookupNotes tree directory target)) := by
  rw [resolve?] at found
  simp only [scanInclusion, found]
  exact if_pos (List.contains_iff_mem.2 visited)

theorem scanInclusion_of_fresh (scan : LineScan)
    (found : resolve? tree directory target = some path)
    (fresh : tree.canonical path ∉ progress.visited) :
    scanInclusion tree scan directory target progress =
      match tree.readLines path with
      | .error error =>
        .ok (((progress.note (lookupNotes tree directory target)).visit
          (tree.canonical path)).note [.includeSkipped path error])
      | .ok lines =>
        scan (some path.parent) (some path.text) lines
          (progress.entering tree (lookupNotes tree directory target) path) := by
  rw [resolve?] at found
  simp only [scanInclusion, found]
  exact if_neg fun listed => fresh (List.contains_iff_mem.1 listed)

end Equations

/-- What including a file can do. -/
inductive InclusionStep (tree : FileTree) (scan : LineScan) (directory : Path) (target : Text)
    (progress : Progress) : Progress → Prop where
  /-- The file is not found. -/
  | missing (nowhere : resolve? tree directory target = none) :
      InclusionStep tree scan directory target progress
        ((progress.note (lookupNotes tree directory target)).note
          [.includeMissing target directory])
  /-- The file has been visited before. -/
  | known {path : Path} (found : resolve? tree directory target = some path)
      (visited : tree.canonical path ∈ progress.visited) :
      InclusionStep tree scan directory target progress
        (progress.note (lookupNotes tree directory target))
  /-- The file cannot be read. -/
  | unreadable {path : Path} {error : PathError}
      (found : resolve? tree directory target = some path)
      (fresh : tree.canonical path ∉ progress.visited)
      (failed : tree.readLines path = .error error) :
      InclusionStep tree scan directory target progress
        (((progress.note (lookupNotes tree directory target)).visit
          (tree.canonical path)).note [.includeSkipped path error])
  /-- The file is scanned. -/
  | opened {path : Path} {lines : List Text} {after : Progress}
      (found : resolve? tree directory target = some path)
      (fresh : tree.canonical path ∉ progress.visited) (read : tree.readLines path = .ok lines)
      (scanned : scan (some path.parent) (some path.text) lines
        (progress.entering tree (lookupNotes tree directory target) path) = .ok after) :
      InclusionStep tree scan directory target progress after

theorem inclusionStep_of_scanInclusion {tree : FileTree} {scan : LineScan} {directory : Path}
    {target : Text} {progress after : Progress}
    (scanned : scanInclusion tree scan directory target progress = .ok after) :
    InclusionStep tree scan directory target progress after := by
  cases found : resolve? tree directory target with
  | none =>
    rw [scanInclusion_of_missing scan found] at scanned
    cases scanned
    exact .missing found
  | some path =>
    by_cases visited : tree.canonical path ∈ progress.visited
    · rw [scanInclusion_of_known scan found visited] at scanned
      cases scanned
      exact .known found visited
    · rw [scanInclusion_of_fresh scan found visited] at scanned
      cases read : tree.readLines path with
      | error error =>
        rw [read] at scanned
        cases scanned
        exact .unreadable found visited read
      | ok lines =>
        rw [read] at scanned
        exact .opened found visited read scanned

/-! ## Lines -/

/-- What a line can do to what is pending and to the progress of a scan. -/
inductive LineStep (tree : FileTree) (scan : LineScan) (directory : Option Path)
    (file : Option Text) (number : Nat) (text : Text) :
    Pending → Progress → Pending → Progress → Prop where
  /-- The line ends the macro that is open. -/
  | closes {block : Block} {progress after : Progress}
      (ends : isMacroEnd (Text.trim text) = true)
      (closed : closeBlock block number progress = .ok after) :
      LineStep tree scan directory file number text (.block block) progress (.comments []) after
  /-- The line belongs to the body of the macro that is open. -/
  | collects {block : Block} {progress : Progress}
      (goesOn : isMacroEnd (Text.trim text) = false) :
      LineStep tree scan directory file number text (.block block) progress
        (.block { block with lines := block.lines ++ [(number, text)] }) progress
  /-- The line includes a file, and there is no directory to look for it. -/
  | ignores {comments : List Text} {progress : Progress} {target : Text}
      (mark : landmark? (Text.trim text) = some (.inclusion target)) (nowhere : directory = none) :
      LineStep tree scan directory file number text (.comments comments) progress
        (.comments []) progress
  /-- The line includes a file. -/
  | includes {comments : List Text} {progress after : Progress} {target : Text} {base : Path}
      (mark : landmark? (Text.trim text) = some (.inclusion target))
      (given : directory = some base)
      (step : InclusionStep tree scan base target progress after) :
      LineStep tree scan directory file number text (.comments comments) progress
        (.comments []) after
  /-- The line begins a macro. -/
  | begins {comments : List Text} {progress : Progress} {name : Text}
      (mark : landmark? (Text.trim text) = some (.header name)) :
      LineStep tree scan directory file number text (.comments comments) progress
        (.block { name := Text.upper name, startLine := number }) progress
  /-- The line is a label. -/
  | labels {comments : List Text} {progress : Progress} {name : Text}
      (mark : landmark? (Text.trim text) = some (.label name)) :
      LineStep tree scan directory file number text (.comments comments) progress
        (.comments []) (documentLabel file name number comments progress)
  /-- The line has no landmark. -/
  | passes {comments : List Text} {progress : Progress} {line : Line}
      (mark : landmark? (Text.trim text) = none)
      (parsed : progress.scanner.parseLine text number = .ok line) :
      LineStep tree scan directory file number text (.comments comments) progress
        (pendingAfter comments line) progress

/-- A line that is scanned successfully does one of the seven things. -/
theorem lineStep_of_scanLine {tree : FileTree} {scan : LineScan} {directory : Option Path}
    {file : Option Text} {number : Nat} {text : Text} {pending next : Pending}
    {progress after : Progress}
    (scanned : scanLine tree scan directory file number text pending progress =
      .ok (next, after)) :
    LineStep tree scan directory file number text pending progress next after := by
  cases pending with
  | block block =>
    simp only [scanLine] at scanned
    split at scanned
    · rename_i ends
      obtain ⟨closed, done, made⟩ := Fault.bind_eq_ok.1 scanned
      cases made
      exact .closes ends done
    · rename_i goesOn
      cases scanned
      exact .collects (Bool.eq_false_iff.2 goesOn)
  | comments comments =>
    simp only [scanLine] at scanned
    split at scanned
    · rename_i target mark
      cases directory with
      | none =>
        cases scanned
        exact .ignores mark rfl
      | some base =>
        obtain ⟨included, done, made⟩ := Fault.bind_eq_ok.1 scanned
        cases made
        exact .includes mark rfl (inclusionStep_of_scanInclusion done)
    · rename_i name mark
      cases scanned
      exact .begins mark
    · rename_i name mark
      cases scanned
      exact .labels mark
    · rename_i mark
      split at scanned
      · rename_i line parsed
        cases scanned
        exact .passes mark parsed
      · cases scanned

end Sm83Cost.Scan
