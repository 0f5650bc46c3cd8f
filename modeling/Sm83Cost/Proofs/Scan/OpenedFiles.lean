import Sm83Cost.Proofs.Scan.Run

/-!
# The files that the scan of a document opens

The scan of a document comes to an end however its files include one another.
`DocumentRun` is a whole scan: it begins with the document itself as the only
place visited, and goes on by a run with no bound on its depth.

No file is opened twice, under whatever paths it is included, and a document
with a name is not opened at all (`scan_opens_each_file_once`).  That the routes
of the paths differ would not say this, since they are computed without looking
at the files; what is shown is that the paths that are opened lead to different
files.
-/

namespace Sm83Cost

set_option autoImplicit false

namespace Scan

/-- The route of the name of a document, if it has one. -/
def documentPlace (tree : FileTree) (file : Option Text) : Option Route :=
  file.map fun name => tree.canonical (Path.ofText name)

end Scan

namespace Scanner

/-- The progress with which the scan of a document begins: macros are forgotten, and a document
with a name is visited. -/
def start (scanner : Scanner) (tree : FileTree) (file : Option Text) :
    Except Scan.Stopped Scan.Progress :=
  let cleared : Scan.Progress := { scanner := { scanner with macros := .empty } }
  match file.map Path.ofText with
  | none => .ok cleared
  | some path =>
    if path.parts.any (·.contains (Char.ofNat 0)) then .error ⟨.path path .nulByte, cleared⟩
    else .ok (cleared.visit (tree.canonical path))

theorem scan_eq (scanner : Scanner) (tree : FileTree) (lines : List Text)
    (directory : Option Path) (file : Option Text) :
    scanner.scan tree lines directory file = (do
      let progress ← scanner.start tree file
      Scan.scanLines tree (Scan.scanTo tree tree.nodes.length) directory file 0 lines
        (.comments []) progress) := by
  unfold scan start
  cases file with
  | none => rfl
  | some name =>
    simp only [Option.map_some]
    split <;> rfl

/-- A scan begins without macros, and with all else that is known. -/
theorem scanner_of_start {scanner : Scanner} {tree : FileTree} {file : Option Text}
    {progress : Scan.Progress}
    (started : scanner.start tree file = .ok progress) :
    progress.scanner = { scanner with macros := .empty } := by
  rw [start] at started
  split at started
  · cases started
    rfl
  · split at started
    · cases started
    · cases started
      rfl

theorem visited_of_start {scanner : Scanner} {tree : FileTree} {file : Option Text}
    {progress : Scan.Progress}
    (started : scanner.start tree file = .ok progress) :
    progress.visited = (Scan.documentPlace tree file).toList := by
  cases file with
  | none =>
    cases started
    rfl
  | some name =>
    simp only [start, Option.map_some] at started
    split at started
    · cases started
    · cases started
      rfl

end Scanner

namespace Scan

/-- The scan of a document comes to an end with an outcome. -/
inductive DocumentRun (scanner : Scanner) (tree : FileTree) (lines : List Text)
    (directory : Option Path) (file : Option Text) :
    Except Stopped Progress → Nat → List Path → Prop where
  /-- The name of the document is no path. -/
  | refused {stopped : Stopped} (given : scanner.start tree file = .error stopped) :
      DocumentRun scanner tree lines directory file (.error stopped) 0 []
  /-- The lines of the document are scanned. -/
  | scanned {progress : Progress} {outcome : Except Stopped Progress} {nesting : Nat}
      {opened : List Path} (started : scanner.start tree file = .ok progress)
      (run : Run tree directory file 0 lines (.comments []) progress outcome nesting opened) :
      DocumentRun scanner tree lines directory file outcome nesting opened

section Documents

variable {scanner : Scanner} {tree : FileTree} {lines : List Text} {directory : Option Path}
  {file : Option Text} {outcome : Except Stopped Progress} {nesting : Nat} {opened : List Path}

/-- The depth that a scan is given is enough for every document. -/
theorem exists_documentRun (scanner : Scanner) (tree : FileTree) (lines : List Text)
    (directory : Option Path) (file : Option Text) :
    ∃ nesting opened, DocumentRun scanner tree lines directory file
      (scanner.scan tree lines directory file) nesting opened := by
  rw [Scanner.scan_eq]
  cases started : scanner.start tree file with
  | error stopped => exact ⟨0, [], .refused started⟩
  | ok progress =>
    have few : (unvisited tree progress.visited).card ≤ tree.nodes.length :=
      (Finset.card_le_card Finset.sdiff_subset).trans tree.card_files_le
    obtain ⟨nesting, opened, run⟩ := exists_run few
    exact ⟨nesting, opened, .scanned started run⟩

/-- There is at most one run of a document. -/
theorem DocumentRun.unique
    (run : DocumentRun scanner tree lines directory file outcome nesting opened)
    {result : Except Stopped Progress} {depth : Nat} {paths : List Path}
    (again : DocumentRun scanner tree lines directory file result depth paths) :
    outcome = result ∧ nesting = depth ∧ opened = paths := by
  cases run with
  | refused given =>
    cases again with
    | refused givenAgain =>
      cases given.symm.trans givenAgain
      exact ⟨rfl, rfl, rfl⟩
    | scanned started runAgain => cases given.symm.trans started
  | scanned started run =>
    cases again with
    | refused given => cases given.symm.trans started
    | scanned startedAgain runAgain =>
      cases started.symm.trans startedAgain
      exact run.unique runAgain

/-- Included files are nested no deeper than there are files. -/
theorem DocumentRun.nesting_le
    (run : DocumentRun scanner tree lines directory file outcome nesting opened) :
    nesting ≤ tree.files.card := by
  cases run with
  | refused given => exact Nat.zero_le _
  | scanned started run =>
    have distinct := Scanner.visited_of_start started ▸ Option.toList_nodup _
    exact run.nesting_le.trans (run.length_opened_le distinct)

/-- The document and the files that are opened have different routes. -/
theorem DocumentRun.nodup
    (run : DocumentRun scanner tree lines directory file outcome nesting opened) :
    ((documentPlace tree file).toList ++ opened.map tree.canonical).Nodup := by
  cases run with
  | refused given => simpa using Option.toList_nodup _
  | scanned started run =>
    have visited := Scanner.visited_of_start started
    have distinct := visited ▸ Option.toList_nodup _
    rw [← visited, ← run.visited]
    exact run.nodup distinct

/-- The files that are opened are files of the tree. -/
theorem DocumentRun.files
    (run : DocumentRun scanner tree lines directory file outcome nesting opened) :
    ∀ path ∈ opened, ∃ lines, tree.readLines path = .ok lines := by
  cases run with
  | refused given => exact fun path member => absurd member List.not_mem_nil
  | scanned started run => exact run.files

/-- No two of the paths that are opened lead to one place. -/
theorem DocumentRun.pairwise_locate
    (run : DocumentRun scanner tree lines directory file outcome nesting opened) :
    opened.Pairwise fun path other => tree.locate path ≠ tree.locate other := by
  have distinct := (List.nodup_append.1 run.nodup).2.1
  rw [List.Nodup, List.pairwise_map] at distinct
  refine distinct.imp_of_mem fun {path other} member memberOther differ same => differ ?_
  obtain ⟨lines, read⟩ := run.files path member
  exact FileTree.canonical_eq_of_locate_eq read same

/-- The document has another route than each path that is opened. -/
theorem DocumentRun.canonical_ne
    (run : DocumentRun scanner tree lines directory file outcome nesting opened)
    {name : Text} (given : name ∈ file) {path : Path} (member : path ∈ opened) :
    tree.canonical path ≠ tree.canonical (Path.ofText name) := by
  intro same
  have apart := (List.nodup_append.1 run.nodup).2.2
  refine apart (tree.canonical (Path.ofText name)) ?_ (tree.canonical path)
    (List.mem_map_of_mem member) same.symm
  rw [Option.mem_def.1 given]
  exact List.mem_cons_self

end Documents

/-- **The scan of a document comes to an end, in one way only.**  Included files are nested no
deeper than there are files, the paths that are opened lead to files, no two of them to the same
one, and none to the document itself. -/
theorem scan_opens_each_file_once (scanner : Scanner) (tree : FileTree) (lines : List Text)
    (directory : Option Path) (file : Option Text) :
    ∃ nesting opened,
      DocumentRun scanner tree lines directory file (scanner.scan tree lines directory file)
        nesting opened ∧
      (∀ outcome depth paths, DocumentRun scanner tree lines directory file outcome depth paths →
        outcome = scanner.scan tree lines directory file ∧ depth = nesting ∧ paths = opened) ∧
      nesting ≤ tree.files.card ∧
      (∀ path ∈ opened, ∃ route ∈ tree.files, tree.locate path = .ok route) ∧
      opened.Pairwise (fun path other => tree.locate path ≠ tree.locate other) ∧
      ∀ name ∈ file, ∀ path ∈ opened,
        tree.canonical path ≠ tree.canonical (Path.ofText name) ∧
          tree.locate path ≠ tree.locate (Path.ofText name) := by
  obtain ⟨nesting, opened, run⟩ := exists_documentRun scanner tree lines directory file
  refine ⟨nesting, opened, run, fun outcome depth paths other => other.unique run,
    run.nesting_le, fun path member => ?_, run.pairwise_locate,
    fun name given path member => ⟨run.canonical_ne given member, fun same => ?_⟩⟩
  · obtain ⟨_, read⟩ := run.files path member
    obtain ⟨route, isFile, located, -⟩ := FileTree.exists_route read
    exact ⟨route, isFile, located⟩
  · obtain ⟨_, read⟩ := run.files path member
    exact run.canonical_ne given member (FileTree.canonical_eq_of_locate_eq read same)

end Scan

end Sm83Cost
