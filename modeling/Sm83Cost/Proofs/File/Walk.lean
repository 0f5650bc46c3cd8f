import Mathlib.Data.Char
import Mathlib.Data.List.Lex
import Mathlib.Data.List.Nodup
import Mathlib.Data.List.TakeWhile
import Sm83Cost.File.Tree
import Sm83Cost.Proofs.Repetition

/-!
# The source files below a directory

A walk over a directory comes upon its source files in order, and then walks over its
directories in order.  What it comes upon can be said without walking.  A place below
the root is listed exactly if it is there and is no directory, its name is that of a
source file, and no directory on the way has one of the names that are skipped
(`SourceBelow`).  One place is listed before another according to the names at which
the ways to them part (`ListedBefore`).

There is one exception.  A walk spells the directories that it enters by appending
names to the spelling of the root, without simplifying anything, and the system
refuses to list a directory with an overlong spelling.  So the spellings on the way
have to be short enough (`CanBeListed`), and a file may be missed although a shorter
path leads to it (`overlong_directory_hides_file`).  Directories that cannot be listed
are noted.
-/

namespace Sm83Cost

set_option autoImplicit false

/-! ## Order -/

namespace Text

theorem precedes_iff {first second : Text} :
    precedes first second = true ↔ ¬ second < first := by
  rw [precedes, Bool.not_eq_true', Bool.eq_false_iff, ne_eq, List.lex_eq_true_iff_lt]

/-- Texts that are sorted are in order of code points. -/
theorem pairwise_sorted {texts : List Text} (distinct : texts.Nodup) :
    (sorted texts).Pairwise (· < ·) := by
  have transitive : ∀ first second third : Text, precedes first second = true →
      precedes second third = true → precedes first third = true := by
    intro first second third here there
    rw [precedes_iff, not_lt] at here there ⊢
    exact le_trans here there
  have total : ∀ first second : Text, (precedes first second || precedes second first) = true := by
    intro first second
    rw [Bool.or_eq_true, precedes_iff, precedes_iff, not_lt, not_lt]
    exact le_total first second
  have ordered := List.pairwise_mergeSort transitive total texts
  have different : (sorted texts).Nodup := (List.mergeSort_perm texts precedes).nodup_iff.2 distinct
  refine (ordered.and different).imp ?_
  rintro first second ⟨least, apart⟩
  rw [precedes_iff, not_lt] at least
  exact lt_of_le_of_ne least apart

end Text

/-- The first way is listed before the second one.  They part in a directory, where the first leads
to a file and the second goes deeper, or where both do the same and names decide. -/
inductive ListedBefore : Route → Route → Prop where
  | files (above : Route) {rest : Route} {name other : Text} (deeper : rest ≠ []) :
      ListedBefore (above ++ [name]) (above ++ other :: rest)
  | names (above : Route) {rest rest' : Route} {name other : Text}
      (alike : rest = [] ↔ rest' = []) (less : name < other) :
      ListedBefore (above ++ name :: rest) (above ++ other :: rest')

theorem ListedBefore.cons {first second : Route} (before : ListedBefore first second)
    (name : Text) : ListedBefore (name :: first) (name :: second) := by
  cases before with
  | files above deeper => exact .files (name :: above) deeper
  | names above alike less => exact .names (name :: above) alike less

theorem ListedBefore.ne {first second : Route} (before : ListedBefore first second) :
    first ≠ second := by
  cases before with
  | files above deeper =>
    intro same
    cases List.append_cancel_left same
    exact deeper rfl
  | names above alike less =>
    intro same
    cases List.append_cancel_left same
    exact lt_irrefl _ less

/-! ## Names of source files -/

/-- The name of a source file: something, a point, and behind the last point one of the endings of
source files in whatever case. -/
def HasSourceSuffix (name : Text) : Prop :=
  ∃ stem ending, name = stem ++ '.' :: ending ∧ stem ≠ [] ∧ '.' ∉ ending ∧
    Text.lower ('.' :: ending) ∈ Path.sourceSuffixes

namespace Path

theorem suffixOf_append {stem ending : Text} (last : '.' ∉ ending) :
    suffixOf (stem ++ '.' :: ending) =
      if stem = [] ∨ ending = [] then [] else '.' :: ending := by
  have behind : ∀ c ∈ ending.reverse, (c != '.') = true := by
    intro c member
    rw [bne_iff_ne]
    rintro rfl
    exact last (List.mem_reverse.1 member)
  have cut : Text.dropEndWhile (· != '.') (stem ++ '.' :: ending) = stem ++ ['.'] := by
    rw [Text.dropEndWhile, List.reverse_append, List.reverse_cons, List.append_assoc,
      List.dropWhile_append_of_pos behind]
    simp
  simp only [suffixOf, cut, List.length_append, List.length_singleton, Nat.add_sub_cancel,
    List.drop_left]
  simp [List.length_eq_zero_iff]

theorem suffixOf_of_not_mem {name : Text} (pointless : '.' ∉ name) : suffixOf name = [] := by
  have all : ∀ c ∈ name.reverse, (c != '.') = true := by
    intro c member
    rw [bne_iff_ne]
    rintro rfl
    exact pointless (List.mem_reverse.1 member)
  have none : Text.dropEndWhile (· != '.') name = [] := by
    rw [Text.dropEndWhile, List.dropWhile_eq_nil_iff.2 all, List.reverse_nil]
  simp [suffixOf, none]

theorem isSource_iff {path : Path} : path.isSource = true ↔ HasSourceSuffix path.name := by
  rw [isSource, List.contains_iff_mem]
  have nothing : Text.lower [] ∉ sourceSuffixes := by decide
  have point : Text.lower ['.'] ∉ sourceSuffixes := by decide
  constructor
  · intro listed
    by_cases pointed : '.' ∈ path.name
    · obtain ⟨behind, before, split, last⟩ :=
        List.eq_append_cons_of_mem (List.mem_reverse.2 pointed)
      have whole : path.name = before.reverse ++ '.' :: behind.reverse := by
        rw [← List.reverse_reverse path.name, split]
        simp
      have final : '.' ∉ behind.reverse := fun member => last (List.mem_reverse.1 member)
      rw [whole, suffixOf_append final] at listed
      split at listed
      · exact absurd listed nothing
      · rename_i full
        exact ⟨_, _, whole, fun none => full (.inl none), final, listed⟩
    · rw [suffixOf_of_not_mem pointed] at listed
      exact absurd listed nothing
  · rintro ⟨stem, ending, whole, full, last, listed⟩
    have more : ending ≠ [] := by
      rintro rfl
      exact point listed
    rw [whole, suffixOf_append last, if_neg (not_or.2 ⟨full, more⟩)]
    exact listed

theorem join_join (directory : Path) (first second : List Text) :
    (directory.join { parts := first }).join { parts := second } =
      directory.join { parts := first ++ second } := by
  simp [join, isAbsolute]

theorem join_injective (directory : Path) :
    Function.Injective fun parts : List Text => directory.join { parts } := by
  intro first second same
  simpa [join, isAbsolute] using same

end Path

namespace FileTree

variable {tree : FileTree} {route below : Route} {name spelled : Text}

/-! ## Names in a directory -/

/-- Something is at a place exactly if it lies on the way to something that is known. -/
theorem node?_ne_none : tree.node? route ≠ none ↔ ∃ way ∈ tree.ways, route <+: way := by
  have leads : tree.ways.any (route.isPrefixOf ·) = true ↔ ∃ way ∈ tree.ways, route <+: way := by
    simp only [List.any_eq_true, List.isPrefixOf_iff_prefix]
  rw [node?]
  split
  · rename_i above
    exact iff_of_true nofun
      ⟨tree.home, List.mem_cons_self, List.isPrefixOf_iff_prefix.1 above⟩
  · split
    · rename_i node found
      obtain ⟨before, after, split, -⟩ := List.lookup_eq_some_iff.1 found
      refine iff_of_true nofun ⟨route, List.mem_cons_of_mem _ ?_, List.prefix_rfl⟩
      rw [split]
      simp
    · rw [← leads]
      cases tree.ways.any (route.isPrefixOf ·) <;> simp

/-- The names in a directory are those under which there is something. -/
theorem mem_childNames : name ∈ tree.childNames route ↔ tree.node? (route ++ [name]) ≠ none := by
  rw [node?_ne_none, childNames, Text.sorted, List.mem_mergeSort, List.mem_eraseDups,
    List.mem_filterMap]
  refine exists_congr fun way => and_congr_right fun _ => ?_
  rw [Option.bind_eq_some_iff]
  constructor
  · rintro ⟨rest, found, first⟩
    obtain ⟨more, rfl⟩ := List.head?_eq_some_iff.1 first
    rw [← List.isPrefixOf?_eq_some_iff_append_eq.1 found]
    exact ⟨more, by simp⟩
  · rintro ⟨more, whole⟩
    refine ⟨name :: more, ?_, rfl⟩
    rw [List.isPrefixOf?_eq_some_iff_append_eq, ← whole]
    simp

theorem pairwise_childNames (tree : FileTree) (route : Route) :
    (tree.childNames route).Pairwise (· < ·) :=
  Text.pairwise_sorted (nodup_eraseDups _)

/-- Beyond the depth of the tree there is nothing. -/
theorem node?_eq_none_of_depth_lt (deep : tree.depth < route.length) : tree.node? route = none := by
  by_contra something
  obtain ⟨way, known, isPrefix⟩ := node?_ne_none.1 something
  have bound : way.length ≤ tree.depth := by
    rw [depth, List.foldl_max]
    have listed : way.length ∈ tree.ways.map List.length := List.mem_map_of_mem known
    exact (List.le_max?_getD_of_mem listed).trans (Nat.le_max_right _ _)
  exact absurd (isPrefix.length_le.trans bound) (Nat.not_le.2 deep)

/-! ## Source files further below -/

/-- There is a source file at the end of the way from the directory at the route, and none of the
directories on the way has a name that is skipped.  The directory at the route itself may have any
name. -/
structure SourceBelow (tree : FileTree) (route below : Route) : Prop where
  found : ∃ node, tree.node? (route ++ below) = some node ∧ node ≠ .directory
  named : HasSourceSuffix (below.getLastD [])
  entered : ∀ above name rest, below = above ++ name :: rest → rest ≠ [] →
    tree.node? (route ++ (above ++ [name])) = some .directory ∧ name ∉ skippedDirectories

/-- A walk that spells the directory at its beginning like this can list every directory on the
way. -/
def CanBeListed (spelled : Text) (below : Route) : Prop :=
  ∀ above rest, below = above ++ rest → rest ≠ [] →
    Text.Utf8.size (above.foldl spell spelled) < pathBound

theorem SourceBelow.ne_nil (source : SourceBelow tree route below) : below ≠ [] := by
  rintro rfl
  obtain ⟨stem, ending, split, -⟩ := source.named
  simp at split

theorem sourceBelow_singleton :
    SourceBelow tree route [name] ↔
      (∃ node, tree.node? (route ++ [name]) = some node ∧ node ≠ .directory) ∧
        HasSourceSuffix name := by
  constructor
  · intro source
    exact ⟨source.found, source.named⟩
  · rintro ⟨found, named⟩
    refine ⟨found, named, ?_⟩
    intro above other rest split deeper
    cases above with
    | nil =>
      cases split
      exact absurd rfl deeper
    | cons first above =>
      obtain ⟨-, nothing⟩ := List.append_eq_nil_iff.1 (List.cons.inj split).2.symm
      cases nothing

theorem sourceBelow_cons (deeper : below ≠ []) :
    SourceBelow tree route (name :: below) ↔
      (tree.node? (route ++ [name]) = some .directory ∧ name ∉ skippedDirectories) ∧
        SourceBelow tree (route ++ [name]) below := by
  have last : (name :: below).getLastD [] = below.getLastD [] := by
    cases below with
    | nil => exact absurd rfl deeper
    | cons first rest => rfl
  constructor
  · rintro ⟨found, named, entered⟩
    refine ⟨entered [] name below rfl deeper, ?_, last ▸ named, ?_⟩
    · rwa [List.append_assoc]
    · intro above other rest split more
      have step := entered (name :: above) other rest (by rw [split]; rfl) more
      rwa [List.append_assoc]
  · rintro ⟨first, found, named, entered⟩
    refine ⟨?_, last ▸ named, ?_⟩
    · rwa [List.append_assoc] at found
    · intro above other rest split more
      cases above with
      | nil =>
        cases split
        exact first
      | cons here above =>
        cases split
        have step := entered above other rest rfl more
        rwa [List.append_assoc] at step

theorem canBeListed_singleton :
    CanBeListed spelled [name] ↔ Text.Utf8.size spelled < pathBound := by
  constructor
  · intro listed
    exact listed [] [name] rfl (List.cons_ne_nil name [])
  · intro short above rest split deeper
    cases above with
    | nil => exact short
    | cons first above =>
      obtain ⟨-, nothing⟩ := List.append_eq_nil_iff.1 (List.cons.inj split).2.symm
      exact absurd nothing deeper

theorem canBeListed_cons (deeper : below ≠ []) :
    CanBeListed spelled (name :: below) ↔
      Text.Utf8.size spelled < pathBound ∧ CanBeListed (spell spelled name) below := by
  constructor
  · intro listed
    refine ⟨listed [] (name :: below) rfl (List.cons_ne_nil name below), ?_⟩
    intro above rest split more
    exact listed (name :: above) rest (by rw [split]; rfl) more
  · rintro ⟨short, listed⟩ above rest split more
    cases above with
    | nil => exact short
    | cons first above =>
      cases split
      exact listed above rest rfl more

/-! ## Walks -/

section Listing

variable {within : Text → List Route}

/-- The ways that a walk lists from a directory, in order: those to its own source files, then those
through its directories. -/
def listing (tree : FileTree) (route : Route) (within : Text → List Route) : List Route :=
  let names := tree.childNames route
  let files := names.filter fun name =>
    !tree.hasDirectory route name && Path.isSource { parts := [name] }
  let directories := names.filter fun name =>
    tree.hasDirectory route name && !skippedDirectories.contains name
  files.map (fun name => [name]) ++ directories.flatMap fun name => (within name).map (name :: ·)

theorem mem_files_iff :
    name ∈ (tree.childNames route).filter (fun name =>
        !tree.hasDirectory route name && Path.isSource { parts := [name] }) ↔
      SourceBelow tree route [name] := by
  have source : Path.isSource { parts := [name] } = true ↔ HasSourceSuffix name := Path.isSource_iff
  rw [List.mem_filter, mem_childNames, Bool.and_eq_true, source, sourceBelow_singleton,
    hasDirectory, Bool.not_eq_true', beq_eq_false_iff_ne, ← and_assoc]
  refine and_congr_left fun _ => ?_
  cases tree.node? (route ++ [name]) <;> simp

theorem mem_directories_iff :
    name ∈ (tree.childNames route).filter (fun name =>
        tree.hasDirectory route name && !skippedDirectories.contains name) ↔
      tree.node? (route ++ [name]) = some .directory ∧ name ∉ skippedDirectories := by
  have unskipped : (!skippedDirectories.contains name) = true ↔ name ∉ skippedDirectories := by simp
  rw [List.mem_filter, mem_childNames, Bool.and_eq_true, unskipped, hasDirectory, beq_iff_eq]
  refine and_iff_right_of_imp fun entered => ?_
  rw [entered.1]
  nofun

/-- What is listed from a directory are the source files below, if the same is true of the
directories in it. -/
theorem mem_listing_iff (short : Text.Utf8.size spelled < pathBound)
    (exact : ∀ name below, below ∈ within name ↔
      SourceBelow tree (route ++ [name]) below ∧ CanBeListed (spell spelled name) below) :
    below ∈ listing tree route within ↔
      SourceBelow tree route below ∧ CanBeListed spelled below := by
  rw [listing, List.mem_append, List.mem_map, List.mem_flatMap]
  constructor
  · rintro (⟨name, file, rfl⟩ | ⟨name, directory, through⟩)
    · exact ⟨mem_files_iff.1 file, canBeListed_singleton.2 short⟩
    · obtain ⟨rest, listed, rfl⟩ := List.mem_map.1 through
      obtain ⟨source, can⟩ := (exact name rest).1 listed
      have deeper := source.ne_nil
      exact ⟨(sourceBelow_cons deeper).2 ⟨mem_directories_iff.1 directory, source⟩,
        (canBeListed_cons deeper).2 ⟨short, can⟩⟩
  · rintro ⟨source, can⟩
    cases below with
    | nil => exact absurd rfl source.ne_nil
    | cons name rest =>
      by_cases deeper : rest = []
      · subst deeper
        exact .inl ⟨name, mem_files_iff.2 source, rfl⟩
      · obtain ⟨entered, further⟩ := (sourceBelow_cons deeper).1 source
        refine .inr ⟨name, mem_directories_iff.2 entered, List.mem_map_of_mem ?_⟩
        exact (exact name rest).2 ⟨further, ((canBeListed_cons deeper).1 can).2⟩

/-- What is listed from a directory is in order, if the same is true of the directories in it. -/
theorem pairwise_listing (ordered : ∀ name, (within name).Pairwise ListedBefore)
    (deeper : ∀ name, ∀ below ∈ within name, below ≠ []) :
    (listing tree route within).Pairwise ListedBefore := by
  have names := tree.pairwise_childNames route
  rw [listing, List.pairwise_append]
  refine ⟨?_, ?_, ?_⟩
  · refine List.pairwise_map.2 ((names.filter _).imp fun less => ?_)
    exact .names [] Iff.rfl less
  · rw [List.pairwise_flatMap]
    constructor
    · intro name directory
      exact List.pairwise_map.2 ((ordered name).imp fun before => before.cons name)
    · refine (names.filter _).imp fun less => ?_
      rintro first through second through'
      obtain ⟨rest, listed, rfl⟩ := List.mem_map.1 through
      obtain ⟨rest', listed', rfl⟩ := List.mem_map.1 through'
      refine .names [] (iff_of_false ?_ ?_) less
      · exact deeper _ rest listed
      · exact deeper _ rest' listed'
  · intro first file second through
    obtain ⟨name, -, rfl⟩ := List.mem_map.1 file
    obtain ⟨directory, -, inside⟩ := List.mem_flatMap.1 through
    obtain ⟨rest, listed, rfl⟩ := List.mem_map.1 inside
    exact .files [] (deeper directory rest listed)

end Listing

/-- **A walk comes upon the source files below a directory, in order**, by induction on the depth to
which directories are entered.  It goes at least as deep as the tree. -/
theorem exists_listing {depth : Nat} (enough : tree.depth < depth + route.length)
    (directory : Path) (spelled : Text) :
    ∃ belows : List Route,
      (tree.walkBelow depth spelled directory route).filterMap Finding.source? =
        belows.map (fun below => directory.join { parts := below }) ∧
      belows.Pairwise ListedBefore ∧
      ∀ below, below ∈ belows ↔ SourceBelow tree route below ∧ CanBeListed spelled below := by
  induction depth generalizing route directory spelled with
  | zero =>
    refine ⟨[], rfl, List.Pairwise.nil, fun below => iff_of_false List.not_mem_nil ?_⟩
    rintro ⟨⟨⟨node, found, -⟩, -⟩, -⟩
    have nothing : tree.node? (route ++ below) = none := by
      apply node?_eq_none_of_depth_lt
      rw [List.length_append]
      omega
    cases nothing.symm.trans found
  | succ depth ih =>
    rw [walkBelow]
    split
    · rename_i long
      refine ⟨[], rfl, List.Pairwise.nil, fun below => iff_of_false List.not_mem_nil ?_⟩
      rintro ⟨source, can⟩
      exact Nat.not_lt.2 long (can [] below rfl source.ne_nil)
    · rename_i long
      have inner := fun name => @ih (route ++ [name])
        (by rw [List.length_append, List.length_singleton]; omega)
        (directory.join { parts := [name] }) (spell spelled name)
      choose within walks ordered exact using inner
      refine ⟨listing tree route within, ?_, pairwise_listing ordered ?_, ?_⟩
      · simp only [listing, List.filterMap_append, List.filterMap_map, List.filterMap_flatMap,
          List.map_append, List.map_map, List.map_flatMap, walks, Path.join_join]
        congr 1
        exact congrFun List.filterMap_eq_map _
      · intro name below listed
        exact ((exact name below).1 listed).1.ne_nil
      · intro below
        exact mem_listing_iff (Nat.lt_of_not_le long) exact

/-- **The source files below a root.**  If the root leads to a directory, they are found by ways
from there, in order and each once: those to a source file on which no directory has a name that is
skipped, and whose directories can be listed.  If the root leads to a file, it is found itself,
provided that its name is that of a source file. -/
theorem sourceFiles_of_locate {tree : FileTree} {root : Path} {route : Route}
    (located : tree.locate root = .ok route) :
    (tree.node? route = some .directory →
      ∃ belows : List Route,
        tree.sourceFiles root = .ok (belows.map fun below => root.join { parts := below }) ∧
        (belows.map fun below => root.join { parts := below }).Nodup ∧
        belows.Pairwise ListedBefore ∧
        ∀ below, below ∈ belows ↔
          SourceBelow tree route below ∧ CanBeListed root.text below) ∧
      ∀ bytes, tree.node? route = some (.file bytes) →
        (HasSourceSuffix root.name → tree.sourceFiles root = .ok [root]) ∧
        (¬ HasSourceSuffix root.name → tree.sourceFiles root = .ok []) := by
  have walked : tree.sourceFiles root =
      .ok ((tree.walkAt root route).filterMap Finding.source?) := by
    rw [sourceFiles, walk, located]
    rfl
  constructor
  · intro directory
    obtain ⟨belows, found, ordered, exact⟩ := exists_listing
      (show tree.depth < tree.depth + 1 + route.length by omega) root root.text
    have distinct : belows.Nodup := ordered.imp ListedBefore.ne
    refine ⟨belows, ?_, List.Nodup.map root.join_injective distinct, ordered, exact⟩
    rw [walked, walkAt, directory, ← found]
  · intro bytes file
    rw [walked, walkAt, file, ← Path.isSource_iff]
    constructor
    · intro source
      rw [if_pos source]
      rfl
    · intro other
      rw [if_neg other]
      rfl

/-- A directory with one that is skipped, a link that leads nowhere, and a file whose name has no
suffix.  The directory is given by its way from the root, and a file in it by a way that goes up
from the working directory. -/
theorem sourceFiles_of_locate_nested :
    let home : Route := ["w".toList]
    let src : Route := home ++ ["src".toList]
    let tree : FileTree := { home, nodes := [
      (src ++ ["lib".toList, "copy.S".toList], .dangling),
      (src ++ ["main.Asm".toList], .file []),
      (src ++ [".inc".toList], .file []),
      (src ++ ["lib".toList, "bin".toList, "old.s".toList], .file [])] }
    let root : Path := { slashes := 1, parts := src }
    let file : Path := { parts := Path.up :: src ++ ["main.Asm".toList] }
    tree.locate root = .ok src ∧ tree.node? src = some .directory ∧
      (∃ belows : List Route,
        tree.sourceFiles root = .ok (belows.map fun below => root.join { parts := below }) ∧
        (belows.map fun below => root.join { parts := below }).Nodup ∧
        belows.Pairwise ListedBefore ∧
        ∀ below, below ∈ belows ↔
          SourceBelow tree src below ∧ CanBeListed root.text below) ∧
      tree.locate file = .ok (src ++ ["main.Asm".toList]) ∧
      tree.node? (src ++ ["main.Asm".toList]) = some (.file []) ∧
      tree.sourceFiles file = .ok [file] := by
  intro home src tree root file
  have located : tree.locate root = .ok src := by decide +kernel
  have directory : tree.node? src = some .directory := by decide +kernel
  have there : tree.locate file = .ok (src ++ ["main.Asm".toList]) := by decide +kernel
  have bytes : tree.node? (src ++ ["main.Asm".toList]) = some (.file []) := by decide +kernel
  have named : HasSourceSuffix file.name :=
    ⟨"main".toList, "Asm".toList, rfl, by decide, by decide, by decide⟩
  exact ⟨located, directory, (sourceFiles_of_locate located).1 directory, there, bytes,
    ((sourceFiles_of_locate there).2 [] bytes).1 named⟩

/-- A root that is written with detours leads to a directory, which has a directory with a source
file.  Behind the spelling of the root, the name of that directory makes too long a path, and the
file is not found. -/
theorem overlong_directory_hides_file :
    let folder : Text := List.replicate 255 'd'
    let below : Route := [folder, "x.asm".toList]
    let content : Node := .file ("nop\n".toList.map fun c => c.toNat.toUInt8)
    let tree : FileTree := { nodes := [(below, content)] }
    let root : Path := { parts := (List.replicate 15 [folder, Path.up]).flatten }
    tree.locate root = .ok [] ∧ tree.node? [] = some .directory ∧
      SourceBelow tree [] below ∧
      ∃ paths, tree.sourceFiles root = .ok paths ∧ root.join { parts := below } ∉ paths := by
  intro folder below content tree root
  have located : tree.locate root = .ok [] := by decide +kernel
  have source : SourceBelow tree [] below := by
    rw [sourceBelow_cons (List.cons_ne_nil _ _), sourceBelow_singleton]
    refine ⟨⟨by decide +kernel, by decide +kernel⟩, ⟨content, by decide +kernel, nofun⟩, ?_⟩
    exact ⟨"x".toList, "asm".toList, rfl, by decide, by decide, by decide⟩
  obtain ⟨belows, found, -, exact⟩ := exists_listing
    (show tree.depth < tree.depth + 1 + ([] : Route).length by omega) root root.text
  have walked : tree.sourceFiles root =
      .ok (belows.map fun below => root.join { parts := below }) := by
    rw [sourceFiles, walk, located, ← found]
    rfl
  refine ⟨located, rfl, source, _, walked, ?_⟩
  intro listed
  have short := ((exact below).1 ((List.mem_map_of_injective root.join_injective).1 listed)).2
    [folder] ["x.asm".toList] rfl (List.cons_ne_nil _ _)
  have long : ¬ Text.Utf8.size ([folder].foldl spell root.text) < pathBound := by decide +kernel
  exact long short

end FileTree

end Sm83Cost
