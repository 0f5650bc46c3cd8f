import Sm83Cost.Proofs.File.Spelling

/-!
# The directory of a file

What a file includes is looked for from the directory of that file, and all that
is known of this directory is the path under which the file was found, less its
last name.  It does not matter which path that was.  Above a place that can be
reached there are only directories (`Grounded`), so the last name of a path to a
file leads down to that file, and the names before it lead to its directory
(`follow_dropLast`).

Names followed from there lead to the same place as from the directory itself,
with one exception: a path of too many bytes leads nowhere, while its names
followed one by one may lead to a file.  `fileAt?` is the file that is found
without regard to the number of bytes, and `isFile` tells the same of every path
that it can judge (`fileAt?_of_isFile`, `fileAt?_of_not_isFile`).
-/

namespace Sm83Cost

set_option autoImplicit false

/-! ## Written paths -/

namespace Path

theorem joined_cons_cons (part next : Text) (rest : List Text) :
    Text.joined "/" (part :: next :: rest) =
      part ++ ("/".toList ++ Text.joined "/" (next :: rest)) := by
  simp [Text.joined, List.intercalate_cons_cons]

/-- A character other than those of a written path itself comes from its names. -/
theorem mem_joined_iff {c : Char} (noSlash : c ≠ '/') (parts : List Text) :
    c ∈ Text.joined "/" parts ↔ ∃ part ∈ parts, c ∈ part := by
  induction parts with
  | nil => simp [Text.joined]
  | cons part rest ih =>
    cases rest with
    | nil => simp [Text.joined]
    | cons next others =>
      rw [joined_cons_cons, List.mem_append, List.mem_append, ih]
      simp [noSlash]

/-- A NUL in a written path is in one of its names. -/
theorem nul_mem_text_iff {path : Path} :
    Char.ofNat 0 ∈ path.text ↔ ∃ part ∈ path.parts, Char.ofNat 0 ∈ part := by
  have slashes : Char.ofNat 0 ∉ List.replicate path.slashes '/' := fun member =>
    absurd (List.eq_of_mem_replicate member) (by decide)
  unfold text
  split
  · rename_i none
    rw [none.2]
    decide
  · rw [List.mem_append, or_iff_right slashes, mem_joined_iff (by decide)]

theorem isAbsolute_join (directory : Path) {path : Path} (relative : path.isAbsolute = false) :
    (directory.join path).isAbsolute = directory.isAbsolute := by
  rw [join, relative]
  rfl

theorem parts_join (directory : Path) {path : Path} (relative : path.isAbsolute = false) :
    (directory.join path).parts = directory.parts ++ path.parts := by
  rw [join, relative]
  rfl

theorem join_of_isAbsolute (directory : Path) {path : Path} (absolute : path.isAbsolute = true) :
    directory.join path = path := by
  rw [join, if_pos absolute]

end Path

namespace FileTree

variable {tree : FileTree} {here there route : Route} {parts names : List Text} {path : Path}

/-! ## Above a place -/

/-- Every place above this one is a directory. -/
def Grounded (tree : FileTree) (route : Route) : Prop :=
  ∀ above, above <+: route → above ≠ route → tree.node? above = some .directory

/-- The working directory and what lies above it are directories. -/
theorem node?_of_isPrefix (above : route <+: tree.home) : tree.node? route = some .directory := by
  rw [node?, if_pos (List.isPrefixOf_iff_prefix.2 above)]

/-- Every path begins at a directory. -/
theorem node?_start (tree : FileTree) (absolute : Bool) :
    tree.node? (tree.start absolute) = some .directory := by
  apply node?_of_isPrefix
  cases absolute with
  | true => exact List.nil_prefix
  | false => exact List.prefix_rfl

theorem grounded_start (tree : FileTree) (absolute : Bool) :
    tree.Grounded (tree.start absolute) := by
  intro above below different
  cases absolute with
  | true => exact absurd (List.prefix_nil.1 below) different
  | false => exact node?_of_isPrefix below

/-- What lies above the place behind a name lies above the place before it, or is that place. -/
theorem isPrefix_of_enter {above : Route} {part : Text} (below : above <+: enter here part)
    (different : above ≠ enter here part) : above <+: here := by
  unfold enter at below different
  split at below
  · exact below
  · split at below
    · exact below.trans (List.dropLast_prefix here)
    · rename_i named onward
      rw [if_neg named, if_neg onward] at different
      exact (List.prefix_concat_iff.1 below).resolve_left different

/-- Names lead from grounded places to grounded places, since they are followed from directories
only. -/
theorem Grounded.follow (grounded : tree.Grounded here)
    (followed : tree.follow here parts = .ok there) : tree.Grounded there := by
  induction parts generalizing here with
  | nil => exact Except.ok.inj followed ▸ grounded
  | cons part rest ih =>
    obtain ⟨step, others⟩ := follow_cons_eq_ok.1 followed
    refine ih ?_ others
    intro above below different
    have before := isPrefix_of_enter below different
    by_cases same : above = here
    · exact same ▸ (follow_single step).1
    · exact grounded above before same

/-- **The directory of a path to a file leads to the directory of that file.** -/
theorem follow_dropLast {bytes : List UInt8} (begins : tree.node? here = some .directory)
    (grounded : tree.Grounded here) (followed : tree.follow here parts = .ok route)
    (isFile : tree.node? route = some (.file bytes)) :
    tree.follow here parts.dropLast = .ok route.dropLast := by
  rcases List.eq_nil_or_concat parts with rfl | ⟨before, last, rfl⟩
  · cases Except.ok.inj followed
    cases begins.symm.trans isFile
  · rw [List.concat_eq_append, follow_append] at followed
    rw [List.concat_eq_append, List.dropLast_concat]
    cases first : tree.follow here before with
    | error error =>
      rw [first] at followed
      cases followed
    | ok middle =>
      rw [first] at followed
      obtain ⟨directory, entered⟩ := follow_single followed
      unfold enter at entered
      split at entered
      · subst entered
        cases directory.symm.trans isFile
      · split at entered
        · -- The last name leads up, so the file would lie above a place that was reached.
          subst entered
          by_cases top : middle.dropLast = middle
          · cases (top ▸ directory).symm.trans isFile
          · cases (grounded.follow first _ (List.dropLast_prefix _) top).symm.trans isFile
        · rw [entered, List.dropLast_concat]

/-! ## Files behind names -/

/-- The file that names lead to from a place, however many bytes they have together.  A NUL is in
no name of a file. -/
def fileFrom? (tree : FileTree) (here : Route) (names : List Text) : Option Route :=
  if names.any (·.contains (Char.ofNat 0)) then none
  else (tree.follow here names).toOption.filter fun there => (tree.node? there).any isFileNode

/-- The file that the names of a path lead to. -/
def fileAt? (tree : FileTree) (path : Path) : Option Route :=
  tree.fileFrom? (tree.start path.isAbsolute) path.parts

theorem any_nul_eq_false :
    names.any (·.contains (Char.ofNat 0)) = false ↔ ∀ name ∈ names, Char.ofNat 0 ∉ name := by
  simp

theorem fileFrom?_eq_some :
    tree.fileFrom? here names = some there ↔
      (∀ name ∈ names, Char.ofNat 0 ∉ name) ∧ tree.follow here names = .ok there ∧
        ∃ bytes, tree.node? there = some (.file bytes) := by
  have isFile (node : Option Node) :
      node.any isFileNode = true ↔ ∃ bytes, node = some (.file bytes) := by
    cases node with
    | none => simp
    | some found => cases found <;> simp [isFileNode]
  rw [fileFrom?, ← any_nul_eq_false]
  cases names.any (·.contains (Char.ofNat 0)) with
  | true => simp
  | false =>
    rw [if_neg Bool.false_ne_true, Option.filter_eq_some_iff, isFile]
    cases tree.follow here names with
    | error error => simp [Except.toOption]
    | ok place => simp [Except.toOption]

/-- Names that were followed to a place can be left out. -/
theorem fileFrom?_append (clean : ∀ name ∈ names, Char.ofNat 0 ∉ name)
    (followed : tree.follow here names = .ok there) (others : List Text) :
    tree.fileFrom? here (names ++ others) = tree.fileFrom? there others := by
  rw [fileFrom?, fileFrom?, List.any_append, any_nul_eq_false.2 clean, Bool.false_or, follow_append,
    followed]
  rfl

/-- A path to a file is too long, or it leads there. -/
theorem locate_of_fileAt? (found : tree.fileAt? path = some route) :
    tree.locate path = .ok route ∨ tree.locate path = .error .tooLong := by
  obtain ⟨clean, followed, -⟩ := fileFrom?_eq_some.1 found
  have noNul : ¬ path.text.contains (Char.ofNat 0) = true := by
    intro listed
    obtain ⟨part, member, nul⟩ := Path.nul_mem_text_iff.1 (List.contains_iff_mem.1 listed)
    exact clean part member nul
  unfold locate locateParts
  rw [if_neg noNul]
  split
  · exact .inr rfl
  · exact .inl followed

/-- The names of a path that leads to a place have no NUL. -/
theorem clean_of_locate (located : tree.locate path = .ok route) :
    ∀ part ∈ path.parts, Char.ofNat 0 ∉ part := by
  intro part member nul
  exact (follow_of_locate located).1 (Path.nul_mem_text_iff.2 ⟨part, member, nul⟩)

theorem fileAt?_of_locate {bytes : List UInt8} (located : tree.locate path = .ok route)
    (isFile : tree.node? route = some (.file bytes)) : tree.fileAt? path = some route :=
  fileFrom?_eq_some.2 ⟨clean_of_locate located, (follow_of_locate located).2, bytes, isFile⟩

/-- What is taken for a file is one, and the route of the path leads there. -/
theorem fileAt?_of_isFile (present : tree.isFile path = .ok true) :
    tree.fileAt? path = some (tree.canonical path) := by
  obtain ⟨lines, read⟩ := isFile_eq_true.1 present
  obtain ⟨route, bytes, located, isFile, -⟩ := readLines_eq_ok.1 read
  rw [canonical_of_locate located]
  exact fileAt?_of_locate located isFile

/-- What is not taken for a file is none. -/
theorem fileAt?_of_not_isFile (absent : tree.isFile path = .ok false) :
    tree.fileAt? path = none := by
  cases found : tree.fileAt? path with
  | none => rfl
  | some route =>
    rcases locate_of_fileAt? found with located | tooLong
    · obtain ⟨-, -, bytes, isFile⟩ := fileFrom?_eq_some.1 found
      have opened : tree.read path = .ok bytes := read_eq_ok.2 ⟨route, located, isFile⟩
      rw [FileTree.isFile, opened] at absent
      cases absent
    · rw [FileTree.isFile, FileTree.read, tooLong] at absent
      cases absent

/-- The directory of a path to a file can be followed to the directory of that file. -/
theorem follow_parent {bytes : List UInt8} (located : tree.locate path = .ok route)
    (isFile : tree.node? route = some (.file bytes)) :
    (∀ part ∈ path.parent.parts, Char.ofNat 0 ∉ part) ∧
      tree.follow (tree.start path.parent.isAbsolute) path.parent.parts = .ok route.dropLast := by
  constructor
  · intro part member
    exact clean_of_locate located part (List.dropLast_subset path.parts member)
  · exact follow_dropLast (tree.node?_start _) (tree.grounded_start _)
      (follow_of_locate located).2 isFile

end FileTree

end Sm83Cost
