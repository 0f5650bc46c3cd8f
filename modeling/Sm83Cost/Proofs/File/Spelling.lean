import Mathlib.Data.Finset.Card
import Sm83Cost.Fault
import Sm83Cost.File.Tree

/-!
# Spellings of a place

One file can be reached by many paths: from the root or from the working
directory, and up and down again.  A scan tells files apart by the routes of
their paths, which are computed from the names alone, without looking at the
files.  This module shows that they are right nevertheless: a path that leads to
a place has the way to that place as its route (`canonical_of_locate`).  So two
paths that lead somewhere have one route exactly when they lead to one place
(`canonical_eq_iff`).
-/

namespace Sm83Cost

set_option autoImplicit false

namespace FileTree

/-! ## Following names -/

/-- Following names one after the other. -/
theorem follow_append (tree : FileTree) (here : Route) (first second : List Text) :
    tree.follow here (first ++ second) =
      (tree.follow here first).bind fun there => tree.follow there second := by
  induction first generalizing here with
  | nil => rfl
  | cons part rest ih =>
    simp only [List.cons_append, follow]
    split
    · rfl
    · split
      · exact ih here
      · split
        · exact ih here.dropLast
        · split
          · rfl
          · split
            · rfl
            · exact ih _

/-- A single name is followed from a directory only, and to the place that the name alone tells. -/
theorem follow_single {tree : FileTree} {here there : Route} {part : Text}
    (followed : tree.follow here [part] = .ok there) :
    tree.node? here = some .directory ∧ there = enter here part := by
  simp only [follow] at followed
  unfold enter
  split at followed
  · cases followed
  · rename_i directory
    refine ⟨not_not.1 directory, ?_⟩
    split at followed
    · rename_i stays
      rw [if_pos stays]
      exact (Except.ok.inj followed).symm
    · rename_i named
      rw [if_neg named]
      split at followed
      · rename_i upward
        rw [if_pos upward]
        exact (Except.ok.inj followed).symm
      · rename_i onward
        rw [if_neg onward]
        split at followed
        · cases followed
        · split at followed
          · cases followed
          · rename_i next found
            obtain ⟨-, child⟩ := Option.ite_none_right_eq_some.1 found
            exact (Except.ok.inj followed).symm.trans (Option.some.inj child).symm

/-- Names that lead from one place to another are followed name by name. -/
theorem follow_cons_eq_ok {tree : FileTree} {here there : Route} {part : Text} {rest : List Text} :
    tree.follow here (part :: rest) = .ok there ↔
      tree.follow here [part] = .ok (enter here part) ∧
        tree.follow (enter here part) rest = .ok there := by
  rw [← List.singleton_append, follow_append]
  cases first : tree.follow here [part] with
  | error error => exact iff_of_false nofun fun both => nomatch both.1
  | ok next =>
    obtain ⟨-, rfl⟩ := follow_single first
    exact (and_iff_right rfl).symm

/-- Where names lead can be told from the names alone. -/
theorem foldl_enter_of_follow {tree : FileTree} {parts : List Text} {here there : Route}
    (followed : tree.follow here parts = .ok there) : parts.foldl enter here = there := by
  induction parts generalizing here with
  | nil => exact Except.ok.inj followed
  | cons part rest ih => exact ih (follow_cons_eq_ok.1 followed).2

/-! ## Places of paths -/

/-- A path that leads to a place has no NUL, and its names lead there. -/
theorem follow_of_locate {tree : FileTree} {path : Path} {route : Route}
    (located : tree.locate path = .ok route) :
    Char.ofNat 0 ∉ path.text ∧
      tree.follow (tree.start path.isAbsolute) path.parts = .ok route := by
  unfold locate locateParts at located
  split at located
  · cases located
  · rename_i clean
    split at located
    · cases located
    · exact ⟨fun nul => clean (List.contains_iff_mem.2 nul), located⟩

/-- **The route of a path that leads to a place is the way to that place.** -/
theorem canonical_of_locate {tree : FileTree} {path : Path} {route : Route}
    (located : tree.locate path = .ok route) : tree.canonical path = route :=
  foldl_enter_of_follow (follow_of_locate located).2

/-- Paths that lead somewhere have one route exactly when they lead to one place. -/
theorem canonical_eq_iff {tree : FileTree} {path other : Path} {route way : Route}
    (located : tree.locate path = .ok route) (locatedOther : tree.locate other = .ok way) :
    tree.canonical path = tree.canonical other ↔ tree.locate path = tree.locate other := by
  rw [canonical_of_locate located, canonical_of_locate locatedOther, located, locatedOther,
    Except.ok.injEq]

/-! ## Files -/

/-- Something with bytes to read. -/
def isFileNode : Node → Bool
  | .file _ => true
  | _ => false

/-- The ways to the files of the tree. -/
def files (tree : FileTree) : Finset Route :=
  (tree.nodes.map Prod.fst).toFinset.filter fun route => (tree.node? route).any isFileNode

/-- A file is one of the listed places. -/
theorem mem_nodes_of_node? {tree : FileTree} {route : Route} {bytes : List UInt8}
    (found : tree.node? route = some (.file bytes)) : (route, .file bytes) ∈ tree.nodes := by
  rw [node?] at found
  split at found
  · cases found
  · split at found
    · rename_i node listed
      obtain ⟨before, after, split, -⟩ := List.lookup_eq_some_iff.1 listed
      cases found
      rw [split]
      simp
    · split at found <;> cases found

theorem mem_files_of_node? {tree : FileTree} {route : Route} {bytes : List UInt8}
    (found : tree.node? route = some (.file bytes)) : route ∈ tree.files := by
  rw [files, Finset.mem_filter, List.mem_toFinset]
  exact ⟨List.mem_map_of_mem (mem_nodes_of_node? found), by simp [found, isFileNode]⟩

/-- There are no more files than places. -/
theorem card_files_le (tree : FileTree) : tree.files.card ≤ tree.nodes.length := by
  calc tree.files.card ≤ (tree.nodes.map Prod.fst).toFinset.card := Finset.card_filter_le _ _
    _ ≤ (tree.nodes.map Prod.fst).length := List.toFinset_card_le _
    _ = tree.nodes.length := List.length_map _

/-- Reading succeeds exactly where there is a file. -/
theorem read_eq_ok {tree : FileTree} {path : Path} {bytes : List UInt8} :
    tree.read path = .ok bytes ↔
      ∃ route, tree.locate path = .ok route ∧ tree.node? route = some (.file bytes) := by
  rw [read, Fault.bind_eq_ok]
  refine exists_congr fun route => and_congr_right fun _ => ?_
  split
  · rename_i content found
    rw [found, Option.some_inj, Node.file.injEq]
    exact ⟨Except.ok.inj, congrArg Except.ok⟩
  · rename_i found
    rw [found]
    exact iff_of_false nofun nofun
  · rename_i other _
    exact iff_of_false nofun fun found => other bytes found

theorem readLines_eq_ok {tree : FileTree} {path : Path} {lines : List Text} :
    tree.readLines path = .ok lines ↔
      ∃ route bytes, tree.locate path = .ok route ∧
        tree.node? route = some (.file bytes) ∧ lines = Text.lines (Text.Utf8.decode bytes) := by
  rw [readLines, Fault.bind_eq_ok]
  constructor
  · rintro ⟨bytes, opened, made⟩
    cases made
    obtain ⟨route, located, found⟩ := read_eq_ok.1 opened
    exact ⟨route, bytes, located, found, rfl⟩
  · rintro ⟨route, bytes, located, found, rfl⟩
    exact ⟨bytes, read_eq_ok.2 ⟨route, located, found⟩, rfl⟩

/-- A path that can be read leads to a file of the tree, and its route is the way there. -/
theorem exists_route {tree : FileTree} {path : Path} {lines : List Text}
    (read : tree.readLines path = .ok lines) :
    ∃ route ∈ tree.files, tree.locate path = .ok route ∧ tree.canonical path = route := by
  obtain ⟨route, bytes, located, found, -⟩ := readLines_eq_ok.1 read
  exact ⟨route, mem_files_of_node? found, located, canonical_of_locate located⟩

/-- Paths that lead to one file have one route. -/
theorem canonical_eq_of_locate_eq {tree : FileTree} {path other : Path} {lines : List Text}
    (read : tree.readLines path = .ok lines) (same : tree.locate path = tree.locate other) :
    tree.canonical path = tree.canonical other := by
  obtain ⟨route, -, located, -⟩ := exists_route read
  exact (canonical_eq_iff located (same ▸ located)).2 same

/-- What is taken for a file can be read. -/
theorem isFile_eq_true {tree : FileTree} {path : Path} :
    tree.isFile path = .ok true ↔ ∃ lines, tree.readLines path = .ok lines := by
  rw [isFile, readLines]
  cases opened : tree.read path with
  | ok bytes => simp [bind, Except.bind, pure, Except.pure]
  | error error => cases error <;> simp [bind, Except.bind]

end FileTree

end Sm83Cost
