import Sm83Cost.Proofs.Routine.Registration
import Sm83Cost.Workspace

/-!
# The routines of a workspace

A workspace scans files one after another, and routines add up while a later one
takes the place of an earlier one of the same name.  Since each file registers one
list of routines, whatever is known before it, the workspace registers one list for
all of them (`exists_added_files`).

So every documented label of a file can be found afterwards, though perhaps from
another file, and every routine that can be found is documented in a file that was
scanned or in one that such a file includes.  Nothing remains of what the workspace
knew before (`scan_finds_documented_labels`).
-/

namespace Sm83Cost

set_option autoImplicit false

/-! ## Registering in order -/

namespace Registry

variable {α : Type} [Named α]

/-- A name that is defined stays defined. -/
theorem find?_register_ne_none {registry : Registry α} {name : Text}
    (known : find? registry name ≠ none) (definition : α) :
    find? (register registry definition) name ≠ none := by
  by_cases same : Text.upper name = Text.upper (Named.name definition)
  · rw [find?, register, same, Store.get?_put_self]
    exact Option.some_ne_none _
  · rw [find?, register, Store.get?_put_of_ne _ same]
    exact known

theorem find?_foldl_ne_none {registry : Registry α} {name : Text}
    (known : find? registry name ≠ none) (definitions : List α) :
    find? (definitions.foldl register registry) name ≠ none := by
  induction definitions generalizing registry with
  | nil => exact known
  | cons definition rest ih => exact ih (find?_register_ne_none known definition)

/-- Whatever is registered is defined in the end. -/
theorem find?_foldl_of_mem {definitions : List α} {definition : α}
    (member : definition ∈ definitions) (registry : Registry α) :
    find? (definitions.foldl register registry) (Named.name definition) ≠ none := by
  obtain ⟨before, behind, rfl⟩ := List.append_of_mem member
  rw [List.foldl_append, List.foldl_cons]
  apply find?_foldl_ne_none
  rw [find?, register, Store.get?_put_self]
  exact Option.some_ne_none _

/-- Whatever is defined in the end was registered, or defined before. -/
theorem mem_of_mem_foldl {definitions : List α} {registry : Registry α} {definition : α}
    (member : definition ∈ (definitions.foldl register registry).values) :
    definition ∈ registry.values ∨ definition ∈ definitions := by
  induction definitions generalizing registry with
  | nil => exact .inl member
  | cons first rest ih =>
    rcases ih member with earlier | later
    · rcases Store.eq_or_mem_of_mem_put earlier with rfl | known
      · exact .inr List.mem_cons_self
      · exact .inl known
    · exact .inr (List.mem_cons_of_mem first later)

end Registry

namespace Workspace

open Scan (GlobalLabel summaryAbove Complete DocumentedFrom)

/-! ## Files -/

/-- The source files that a walk comes upon. -/
def sourcesOf (findings : List FileTree.Finding) : List Path :=
  findings.filterMap FileTree.Finding.source?

/-- **There is one list of routines that scanning files registers**, and one number of files that
is added to the count, whatever is known before. -/
theorem exists_added_files (tree : FileTree) (findings : List FileTree.Finding) :
    ∃ documented, (∀ scanner count journal total,
        (scanFiles tree scanner count journal findings).result = .ok total →
        total = count + (sourcesOf findings).countP (fun path => (tree.readLines path).isOk) ∧
          (scanFiles tree scanner count journal findings).workspace.scanner.routines =
            documented.foldl Registry.register scanner.routines) ∧
      (∀ routine ∈ documented, ∃ path ∈ sourcesOf findings, DocumentedFrom tree path routine) ∧
      ∀ path ∈ sourcesOf findings, ∀ lines, tree.readLines path = .ok lines →
        Complete lines 0 documented := by
  induction findings with
  | nil =>
    refine ⟨[], ?_, List.forall_mem_nil _, List.forall_mem_nil _⟩
    intro scanner count journal total scanned
    cases scanned
    exact ⟨rfl, rfl⟩
  | cons finding rest ih =>
    obtain ⟨others, registers, sourced, complete⟩ := ih
    cases finding with
    | unlisted directory error =>
      refine ⟨others, ?_, sourced, complete⟩
      intro scanner count journal total scanned
      exact registers scanner count _ total scanned
    | source path =>
      have listed : sourcesOf (.source path :: rest) = path :: sourcesOf rest := rfl
      rw [listed]
      cases read : tree.readLines path with
      | error error =>
        refine ⟨others, ?_, ?_, ?_⟩
        · intro scanner count journal total scanned
          rw [scanFiles, read] at scanned ⊢
          rw [List.countP_cons_of_neg (by simp [read, Except.isOk, Except.toBool])]
          exact registers scanner count _ total scanned
        · intro routine member
          obtain ⟨source, listed, found⟩ := sourced routine member
          exact ⟨source, List.mem_cons_of_mem path listed, found⟩
        · intro other member lines opened
          rcases List.mem_cons.1 member with rfl | later
          · rw [read] at opened
            cases opened
          · exact complete other later lines opened
      | ok lines =>
        obtain ⟨documented, adds, here, whole⟩ := Scan.exists_added read
        refine ⟨documented ++ others, ?_, ?_, ?_⟩
        · intro scanner count journal total scanned
          rw [scanFiles, read] at scanned ⊢
          rw [List.countP_cons_of_pos (by simp [read, Except.isOk, Except.toBool])]
          cases outcome : scanner.scan tree lines (some path.parent) (some path.text) with
          | error stopped =>
            simp only [outcome] at scanned
            cases scanned
          | ok progress =>
            simp only [outcome] at scanned ⊢
            obtain ⟨counted, routines⟩ := registers progress.scanner (count + 1) _ total scanned
            refine ⟨by omega, ?_⟩
            rw [routines, adds scanner progress outcome, List.foldl_append]
        · intro routine member
          rcases List.mem_append.1 member with first | later
          · exact ⟨path, List.mem_cons_self, here routine first⟩
          · obtain ⟨source, listed, found⟩ := sourced routine later
            exact ⟨source, List.mem_cons_of_mem path listed, found⟩
        · intro other member opened found index name reached label spoken
          rcases List.mem_cons.1 member with rfl | later
          · rw [read] at found
            cases found
            obtain ⟨routine, listed, named⟩ := whole index name reached label spoken
            exact ⟨routine, List.mem_append_left others listed, named⟩
          · obtain ⟨routine, listed, named⟩ :=
              complete other later opened found index name reached label spoken
            exact ⟨routine, List.mem_append_right documented listed, named⟩

/-! ## Roots -/

/-- What walks from roots come upon. -/
def findingsOf (tree : FileTree) (roots : List Path) : List FileTree.Finding :=
  roots.flatMap fun root => (tree.walk root).toOption.getD []

theorem mem_sourcesOf {tree : FileTree} {roots : List Path} {path : Path} :
    path ∈ sourcesOf (findingsOf tree roots) ↔
      ∃ root ∈ roots, ∃ paths, tree.sourceFiles root = .ok paths ∧ path ∈ paths := by
  rw [sourcesOf, findingsOf, List.filterMap_flatMap, List.mem_flatMap]
  refine exists_congr fun root => and_congr_right fun _ => ?_
  rw [FileTree.sourceFiles]
  cases tree.walk root with
  | error error => simp [Except.toOption, Except.map]
  | ok findings => simp [Except.toOption, Except.map]

/-- Files may be scanned in two parts. -/
theorem scanFiles_append (tree : FileTree) (scanner : Scanner) (count : Nat)
    (journal : List Record) (first second : List FileTree.Finding) :
    scanFiles tree scanner count journal (first ++ second) =
      match (scanFiles tree scanner count journal first).result with
      | .error _ => scanFiles tree scanner count journal first
      | .ok total =>
        scanFiles tree (scanFiles tree scanner count journal first).workspace.scanner total
          (scanFiles tree scanner count journal first).journal second := by
  induction first generalizing scanner count journal with
  | nil => rfl
  | cons finding rest ih =>
    cases finding with
    | unlisted directory error => exact ih _ _ _
    | source path =>
      rw [List.cons_append, scanFiles, scanFiles]
      cases tree.readLines path with
      | error error => exact ih _ _ _
      | ok lines =>
        dsimp only
        cases scanner.scan tree lines (some path.parent) (some path.text) with
        | error stopped => rfl
        | ok progress => exact ih _ _ _

/-- Where scanning roots succeeds, it scans the files below them in order. -/
theorem scanRoots_eq {tree : FileTree} {scanner : Scanner} {count total : Nat}
    {journal : List Record} {roots : List Path}
    (returned : (scanRoots tree scanner count journal roots).result = .ok total) :
    scanRoots tree scanner count journal roots =
      scanFiles tree scanner count journal (findingsOf tree roots) := by
  induction roots generalizing scanner count journal with
  | nil => rfl
  | cons root rest ih =>
    rw [scanRoots] at returned ⊢
    rw [findingsOf, List.flatMap_cons, ← findingsOf, scanFiles_append]
    cases walked : tree.walk root with
    | error error =>
      rw [walked] at returned
      cases returned
    | ok findings =>
      simp only [walked, Except.toOption, Option.getD_some] at returned ⊢
      cases outcome : (scanFiles tree scanner count journal findings).result with
      | error fault => rfl
      | ok counted =>
        simp only [outcome] at returned ⊢
        exact ih returned

/-- A scan that returns leaves the workspace that scanning the roots leaves. -/
theorem scan_eq {workspace : Workspace} {tree : FileTree} {roots : List Path} {count : Nat}
    (returned : (workspace.scan tree roots).result = .ok count) :
    (scanFiles tree workspace.scanner.clear 0 [] (findingsOf tree roots)).result = .ok count ∧
      (workspace.scan tree roots).workspace =
        (scanFiles tree workspace.scanner.clear 0 [] (findingsOf tree roots)).workspace := by
  rw [scan] at returned ⊢
  cases outcome : (scanRoots tree workspace.scanner.clear 0 [] roots).result with
  | error fault =>
    simp only [outcome] at returned
    cases returned
  | ok total =>
    simp only [outcome] at returned ⊢
    cases returned
    rw [← scanRoots_eq outcome]
    exact ⟨outcome, rfl⟩

/-- **A workspace finds exactly what is documented.**  When a scan of some roots returns: a global
label outside of macros, in a source file below a root that can be read, is found by its name if the
comments above it say anything.  Every routine that is known is such a label, with what the comments
above it say, on that line of a file that was scanned or that is reached from one by included files.
And nothing depends on what the workspace knew before: with the same table, and with lines taken
apart the same way, any other workspace returns the same count; and whichever returns, returns this
count and knows these routines. -/
theorem scan_finds_documented_labels (workspace : Workspace) (tree : FileTree)
    (roots : List Path) {count : Nat}
    (returned : (workspace.scan tree roots).result = .ok count) :
    let after := (workspace.scan tree roots).workspace
    (∀ root ∈ roots, ∀ paths, tree.sourceFiles root = .ok paths → ∀ path ∈ paths,
      ∀ lines, tree.readLines path = .ok lines →
        ∀ index name, GlobalLabel lines index name →
          (summaryAbove lines index).isSilent = false → after.find? name ≠ none) ∧
    (∀ routine ∈ after.scanner.routines.values, ∃ root ∈ roots, ∃ paths,
      tree.sourceFiles root = .ok paths ∧ ∃ path ∈ paths, DocumentedFrom tree path routine) ∧
    ∀ other : Workspace,
      (other.scanner.table = workspace.scanner.table →
        other.scanner.pinned = workspace.scanner.pinned →
          (other.scan tree roots).result = .ok count) ∧
      ∀ total, (other.scan tree roots).result = .ok total →
        total = count ∧
          (other.scan tree roots).workspace.scanner.routines = after.scanner.routines := by
  intro after
  obtain ⟨documented, registers, sourced, complete⟩ :=
    exists_added_files tree (findingsOf tree roots)
  -- Every scan that returns counts the same files and begins without routines.
  have known : ∀ {any : Workspace} {total : Nat}, (any.scan tree roots).result = .ok total →
      total = 0 + (sourcesOf (findingsOf tree roots)).countP (fun path => (tree.readLines path).isOk) ∧
        (any.scan tree roots).workspace.scanner.routines =
          documented.foldl Registry.register .empty := by
    intro any total done
    obtain ⟨scanned, same⟩ := scan_eq done
    rw [same]
    exact registers any.scanner.clear 0 [] total scanned
  obtain ⟨counted, routines⟩ := known returned
  refine ⟨?_, ?_, ?_⟩
  · intro root above paths listed path member lines read index name label spoken
    have reached : path ∈ sourcesOf (findingsOf tree roots) :=
      mem_sourcesOf.2 ⟨root, above, paths, listed, member⟩
    obtain ⟨routine, found, rfl⟩ :=
      complete path reached lines read index name (Nat.zero_le index) label spoken
    rw [find?, routines]
    exact Registry.find?_foldl_of_mem found .empty
  · intro routine member
    rw [routines] at member
    rcases Registry.mem_of_mem_foldl member with none | found
    · cases none
    · obtain ⟨path, reached, source⟩ := sourced routine found
      obtain ⟨root, above, paths, listed, member⟩ := mem_sourcesOf.1 reached
      exact ⟨root, above, paths, listed, path, member, source⟩
  · intro other
    constructor
    · intro tables pins
      have cleared : other.scanner.clear = workspace.scanner.clear := by
        rw [Scanner.clear, Scanner.clear, tables, pins]
      rw [← returned, scan, scan, cleared]
    · intro total done
      obtain ⟨same, others⟩ := known done
      exact ⟨same.trans counted.symm, others.trans routines.symm⟩

/-- A label is documented across a blank line, a file that is included documents the same name in
capitals, and a label in the body of a macro does not count.  One file is given by its way from the
root, and the other by a way that goes up out of the working directory.  What was known before is
gone. -/
theorem scan_finds_documented_labels_redefined :
    let file (lines : List String) : Node :=
      .file ((String.intercalate "\n" lines).toList.map fun c => c.toNat.toUInt8)
    let main : List Text := ["; Adds.".toList, [], "Add:".toList, "INCLUDE \"lib.inc\"".toList,
      "Hide: MACRO".toList, "; Hidden.".toList, "Inner:".toList, " ENDM".toList]
    let home : Route := ["w".toList]
    let tree : FileTree := { home, nodes := [
      (home ++ ["main.asm".toList], file ["; Adds.", "", "Add:", "INCLUDE \"lib.inc\"",
        "Hide: MACRO", "; Hidden.", "Inner:", " ENDM"]),
      (home ++ ["lib.inc".toList], file ["; b: amount", "ADD:: ret"])] }
    let old : Routine := { name := "Old".toList, file := none, line := 3 }
    let workspace : Workspace :=
      { scanner := { routines := Registry.register (.empty : Registry Routine) old } }
    let path : Path := { slashes := 1, parts := home ++ ["main.asm".toList] }
    let roots : List Path := [path, { parts := Path.up :: home ++ ["lib.inc".toList] }]
    let outcome := workspace.scan tree roots
    outcome.result = .ok 2 ∧
      tree.readLines path = .ok main ∧ GlobalLabel main 2 "Add" ∧
      outcome.workspace.find? "Add" ≠ none ∧
      outcome.workspace.find? "Inner" = none ∧ outcome.workspace.find? "Old" = none ∧
      (({} : Workspace).scan tree roots).result = .ok 2 := by
  intro file main home tree old workspace path roots outcome
  have returned : outcome.result = .ok 2 := by decide +kernel
  have listed : tree.sourceFiles path = .ok [path] := by decide +kernel
  have read : tree.readLines path = .ok main := by decide +kernel
  have label : GlobalLabel main 2 "Add" :=
    ⟨"Add:".toList, rfl, by decide +kernel, by decide +kernel, by decide +kernel⟩
  have spoken : (summaryAbove main 2).isSilent = false := by decide +kernel
  obtain ⟨complete, -, independent⟩ :=
    scan_finds_documented_labels workspace tree roots returned
  have found := complete _ List.mem_cons_self _ listed _ List.mem_cons_self main read 2 _ label
    spoken
  have again := (independent {}).1 rfl rfl
  exact ⟨returned, read, label, found, by decide +kernel, by decide +kernel, again⟩

end Workspace

end Sm83Cost
