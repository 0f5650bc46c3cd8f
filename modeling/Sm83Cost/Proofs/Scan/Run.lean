import Sm83Cost.Proofs.File.Spelling
import Sm83Cost.Proofs.Scan.Steps

/-!
# Runs of a scan

Scanning a document scans the files that it includes, which scans the files that
those include, and so on.  `Run` is this recursion written as a relation, with no
bound on its depth: a derivation is a scan that comes to an end.  It also records
how deep included files are nested, and which files are opened, in order and
under the paths by which they are found.

A scan to a given depth is a run whenever the depth is not smaller than the
number of files that have not been visited (`exists_run`).  Each file that is
opened was not visited before and is afterwards, so along a run that number only
shrinks.

What a run does to the places visited is said once: it appends the routes of the
paths it opens (`Run.visited`), each of them for the first time (`Run.nodup`).
Lines determine their run (`Run.unique`), so the depth of a scan does not matter as
long as it is enough.
-/

namespace Sm83Cost.Scan

set_option autoImplicit false

/-- A line opens the file at a path: it includes it, outside of a macro, and the file is found,
has not been visited, and has these lines.  The last argument is the progress with which they
are scanned. -/
inductive Opens (tree : FileTree) :
    Option Path → Text → Pending → Progress → Path → List Text → Progress → Prop where
  | inclusion {base path : Path} {target text : Text} {comments lines : List Text}
      {progress : Progress} (mark : landmark? (Text.trim text) = some (.inclusion target))
      (found : resolve? tree base target = some path)
      (fresh : tree.canonical path ∉ progress.visited) (read : tree.readLines path = .ok lines) :
      Opens tree (some base) text (.comments comments) progress path lines
        (progress.entering tree (lookupNotes tree base target) path)

/-- The scan of lines comes to an end with an outcome.  `nesting` is how deep the files that are
opened are nested in one another, and `opened` lists the paths at which they are found. -/
inductive Run (tree : FileTree) :
    Option Path → Option Text → Nat → List Text → Pending → Progress →
      Except Stopped Progress → Nat → List Path → Prop where
  /-- There are no lines left. -/
  | ends {directory : Option Path} {file : Option Text} {number : Nat} {pending : Pending}
      {progress : Progress} :
      Run tree directory file number [] pending progress (.ok (finish pending progress)) 0 []
  /-- The line opens no file, so it does not matter how files are scanned. -/
  | stays {directory : Option Path} {file : Option Text} {number nesting : Nat} {text : Text}
      {rest : List Text} {pending next : Pending} {progress middle : Progress}
      {outcome : Except Stopped Progress} {opened : List Path}
      (line : ∀ scan, scanLine tree scan directory file number text pending progress =
        .ok (next, middle))
      (others : Run tree directory file (number + 1) rest next middle outcome nesting opened) :
      Run tree directory file number (text :: rest) pending progress outcome nesting opened
  /-- The line opens no file, and the scan is given up at it. -/
  | stops {directory : Option Path} {file : Option Text} {number : Nat} {text : Text}
      {rest : List Text} {pending : Pending} {progress : Progress} {stopped : Stopped}
      (line : ∀ scan, scanLine tree scan directory file number text pending progress =
        .error stopped) :
      Run tree directory file number (text :: rest) pending progress (.error stopped) 0 []
  /-- The line opens a file, which is scanned to its end. -/
  | enters {directory : Option Path} {file : Option Text} {number depth nesting : Nat}
      {text : Text} {rest lines : List Text} {pending : Pending}
      {progress entered middle : Progress} {outcome : Except Stopped Progress} {path : Path}
      {within opened : List Path}
      (opens : Opens tree directory text pending progress path lines entered)
      (inner : Run tree (some path.parent) (some path.text) 0 lines (.comments []) entered
        (.ok middle) depth within)
      (others : Run tree directory file (number + 1) rest (.comments []) middle outcome nesting
        opened) :
      Run tree directory file number (text :: rest) pending progress outcome
        (max (depth + 1) nesting) (path :: (within ++ opened))
  /-- The line opens a file, and the scan is given up in it. -/
  | stopsWithin {directory : Option Path} {file : Option Text} {number depth : Nat}
      {text : Text} {rest lines : List Text} {pending : Pending} {progress entered : Progress}
      {stopped : Stopped} {path : Path} {within : List Path}
      (opens : Opens tree directory text pending progress path lines entered)
      (inner : Run tree (some path.parent) (some path.text) 0 lines (.comments []) entered
        (.error stopped) depth within) :
      Run tree directory file number (text :: rest) pending progress (.error stopped)
        (depth + 1) (path :: within)

/-! ## Lines that open a file and lines that do not -/

/-- What is found is one of the paths that are looked at, and leads to a file. -/
theorem mem_of_firstFile {tree : FileTree} {candidates : List Path} {path : Path}
    (found : (firstFile tree candidates).1 = some path) :
    path ∈ candidates ∧ tree.isFile path = .ok true := by
  induction candidates with
  | nil => cases found
  | cons candidate rest ih =>
    rw [firstFile] at found
    split at found
    · rename_i present
      cases found
      exact ⟨List.mem_cons_self, present⟩
    · exact ⟨List.mem_cons_of_mem candidate (ih found).1, (ih found).2⟩
    · exact ⟨List.mem_cons_of_mem candidate (ih found).1, (ih found).2⟩

theorem readLines_of_resolve {tree : FileTree} {directory path : Path} {target : Text}
    (found : resolve? tree directory target = some path) :
    ∃ lines, tree.readLines path = .ok lines :=
  FileTree.isFile_eq_true.1 (mem_of_firstFile found).2

/-- A line that opens a file does what the scan of that file does. -/
theorem Opens.scanLine_eq {tree : FileTree} {directory : Option Path} {text : Text}
    {pending : Pending} {progress entered : Progress} {path : Path} {lines : List Text}
    (opens : Opens tree directory text pending progress path lines entered) (scan : LineScan)
    (file : Option Text) (number : Nat) :
    scanLine tree scan directory file number text pending progress = (do
      let progress ← scan (some path.parent) (some path.text) lines entered
      return (.comments [], progress)) := by
  cases opens with
  | inclusion mark found fresh read =>
    simp only [scanLine, mark, scanInclusion_of_fresh scan found fresh, read]

/-- Either a line does the same however files are scanned, or it opens a file. -/
theorem scanLine_cases (tree : FileTree) (directory : Option Path) (file : Option Text)
    (number : Nat) (text : Text) (pending : Pending) (progress : Progress) :
    (∃ result, ∀ scan, scanLine tree scan directory file number text pending progress = result) ∨
      ∃ path lines entered, Opens tree directory text pending progress path lines entered := by
  cases pending with
  | block block => exact .inl ⟨_, fun _ => rfl⟩
  | comments comments =>
    cases mark : landmark? (Text.trim text) with
    | none => exact .inl ⟨_, fun _ => by simp only [scanLine, mark]; rfl⟩
    | some landmark =>
      cases landmark with
      | header name => exact .inl ⟨_, fun _ => by simp only [scanLine, mark]; rfl⟩
      | label name => exact .inl ⟨_, fun _ => by simp only [scanLine, mark]; rfl⟩
      | inclusion target =>
        cases directory with
        | none => exact .inl ⟨_, fun _ => by simp only [scanLine, mark]; rfl⟩
        | some base =>
          cases found : resolve? tree base target with
          | none =>
            refine .inl ⟨.ok (.comments [], (progress.note (lookupNotes tree base target)).note
              [.includeMissing target base]), fun scan => ?_⟩
            simp only [scanLine, mark, scanInclusion_of_missing scan found]
            rfl
          | some path =>
            by_cases visited : tree.canonical path ∈ progress.visited
            · refine .inl ⟨.ok (.comments [], progress.note (lookupNotes tree base target)),
                fun scan => ?_⟩
              simp only [scanLine, mark, scanInclusion_of_known scan found visited]
              rfl
            · obtain ⟨lines, read⟩ := readLines_of_resolve found
              exact .inr ⟨path, lines, _, .inclusion mark found visited read⟩

/-! ## Places visited -/

/-- The progress at the end, also of a scan that was given up. -/
def lastProgress : Except Stopped Progress → Progress
  | .ok progress => progress
  | .error stopped => stopped.progress

/-- Closing a macro visits nothing. -/
theorem visited_of_closeBlock {block : Block} {number : Nat} {progress : Progress}
    {outcome : Except Stopped Progress} (closed : closeBlock block number progress = outcome) :
    (lastProgress outcome).visited = progress.visited := by
  subst closed
  unfold closeBlock
  dsimp only
  split
  · rfl
  · split <;> rfl

theorem visited_documentLabel (file : Option Text) (name : Text) (number : Nat)
    (comments : List Text) (progress : Progress) :
    (documentLabel file name number comments progress).visited = progress.visited := by
  unfold documentLabel
  dsimp only
  split <;> rfl

/-- A scan of included files that gives up at once. -/
def refuse : LineScan :=
  fun _ _ _ progress => .error ⟨.noCycles, progress⟩

/-- A line that does the same however files are scanned visits nothing. -/
theorem visited_of_stays {tree : FileTree} {directory : Option Path} {file : Option Text}
    {number : Nat} {text : Text} {pending next : Pending} {progress middle : Progress}
    (line : ∀ scan, scanLine tree scan directory file number text pending progress =
      .ok (next, middle)) : middle.visited = progress.visited := by
  cases lineStep_of_scanLine (line refuse) with
  | closes ends closed => exact visited_of_closeBlock closed
  | collects => rfl
  | ignores => rfl
  | includes mark given step =>
    cases step with
    | missing => rfl
    | known => rfl
    | unreadable found fresh failed =>
      obtain ⟨lines, read⟩ := readLines_of_resolve found
      cases failed.symm.trans read
    | opened found fresh read scanned => cases scanned
  | begins => rfl
  | labels => exact visited_documentLabel ..
  | passes => rfl

/-- Only the scan of a file is given up when a file is included. -/
theorem exists_scanInclusion (tree : FileTree) (directory : Path) (target : Text)
    (progress : Progress) :
    ∃ after, scanInclusion tree (fun _ _ _ progress => .ok progress) directory target progress =
      .ok after := by
  cases found : resolve? tree directory target with
  | none => exact ⟨_, scanInclusion_of_missing _ found⟩
  | some path =>
    by_cases visited : tree.canonical path ∈ progress.visited
    · exact ⟨_, scanInclusion_of_known _ found visited⟩
    · obtain ⟨lines, read⟩ := readLines_of_resolve found
      exact ⟨_, (scanInclusion_of_fresh _ found visited).trans (by rw [read])⟩

/-- A line at which the scan is given up visits nothing, unless that happens in a file. -/
theorem visited_of_stops {tree : FileTree} {directory : Option Path} {file : Option Text}
    {number : Nat} {text : Text} {pending : Pending} {progress : Progress} {stopped : Stopped}
    (line : ∀ scan, scanLine tree scan directory file number text pending progress =
      .error stopped) : stopped.progress.visited = progress.visited := by
  have given := line fun _ _ _ progress => .ok progress
  cases pending with
  | block block =>
    simp only [scanLine] at given
    split at given
    · cases closed : closeBlock block number progress with
      | ok after =>
        rw [closed] at given
        cases given
      | error other =>
        rw [closed] at given
        cases given
        exact visited_of_closeBlock closed
    · cases given
  | comments comments =>
    simp only [scanLine] at given
    split at given
    · split at given
      · cases given
      · obtain ⟨after, included⟩ := exists_scanInclusion tree _ _ progress
        rw [included] at given
        cases given
    · cases given
    · cases given
    · split at given
      · cases given
      · cases given
        rfl

section Runs

variable {tree : FileTree} {directory : Option Path} {file : Option Text} {number nesting : Nat}
  {text : Text} {lines : List Text} {pending : Pending} {progress entered : Progress}
  {outcome : Except Stopped Progress} {path : Path} {opened : List Path}

theorem Opens.visited
    (opens : Opens tree directory text pending progress path lines entered) :
    entered.visited = progress.visited ++ [tree.canonical path] := by
  cases opens
  rfl

theorem Opens.nodup (opens : Opens tree directory text pending progress path lines entered)
    (distinct : progress.visited.Nodup) : entered.visited.Nodup := by
  rw [opens.visited]
  cases opens with
  | inclusion mark found fresh read => exact List.concat_eq_append ▸ distinct.concat fresh

/-- **A run visits the paths that it opens, one after the other, and nothing else.** -/
theorem Run.visited
    (run : Run tree directory file number lines pending progress outcome nesting opened) :
    (lastProgress outcome).visited = progress.visited ++ opened.map tree.canonical := by
  induction run with
  | @ends _ _ _ pending progress =>
    rw [List.map_nil, List.append_nil]
    cases pending <;> rfl
  | stays line others ih => rw [ih, visited_of_stays line]
  | stops line =>
    rw [List.map_nil, List.append_nil]
    exact visited_of_stops line
  | enters opens inner others ihInner ihOthers =>
    rw [lastProgress, opens.visited] at ihInner
    rw [ihOthers, ihInner]
    simp
  | stopsWithin opens inner ih =>
    rw [ih, opens.visited]
    simp

/-- **A run visits every place for the first time.** -/
theorem Run.nodup
    (run : Run tree directory file number lines pending progress outcome nesting opened)
    (distinct : progress.visited.Nodup) : (lastProgress outcome).visited.Nodup := by
  induction run with
  | @ends _ _ _ pending progress => cases pending <;> exact distinct
  | stays line others ih => exact ih (visited_of_stays line ▸ distinct)
  | stops line =>
    rw [lastProgress, visited_of_stops line]
    exact distinct
  | enters opens inner others ihInner ihOthers => exact ihOthers (ihInner (opens.nodup distinct))
  | stopsWithin opens inner ih => exact ih (opens.nodup distinct)

/-! ## Files opened -/

/-- Files opened inside one another are opened one after the other. -/
theorem Run.nesting_le
    (run : Run tree directory file number lines pending progress outcome nesting opened) :
    nesting ≤ opened.length := by
  induction run with
  | ends => exact Nat.le_refl 0
  | stays line others ih => exact ih
  | stops line => exact Nat.le_refl 0
  | enters opens inner others ihInner ihOthers =>
    rw [List.length_cons, List.length_append]
    omega
  | stopsWithin opens inner ih => exact Nat.succ_le_succ ih

theorem Opens.read (opens : Opens tree directory text pending progress path lines entered) :
    tree.readLines path = .ok lines := by
  cases opens with
  | inclusion mark found fresh read => exact read

/-- The files that a run opens are files of the tree. -/
theorem Run.files
    (run : Run tree directory file number lines pending progress outcome nesting opened) :
    ∀ path ∈ opened, ∃ lines, tree.readLines path = .ok lines := by
  induction run with
  | ends => exact fun path member => absurd member List.not_mem_nil
  | stays line others ih => exact ih
  | stops line => exact fun path member => absurd member List.not_mem_nil
  | enters opens inner others ihInner ihOthers =>
    intro path member
    rcases List.mem_cons.1 member with rfl | later
    · exact ⟨_, opens.read⟩
    · exact (List.mem_append.1 later).elim (ihInner path) (ihOthers path)
  | stopsWithin opens inner ih =>
    intro path member
    rcases List.mem_cons.1 member with rfl | inside
    · exact ⟨_, opens.read⟩
    · exact ih path inside

/-- A run opens no more files than there are. -/
theorem Run.length_opened_le
    (run : Run tree directory file number lines pending progress outcome nesting opened)
    (distinct : progress.visited.Nodup) : opened.length ≤ tree.files.card := by
  have nodup : (opened.map tree.canonical).Nodup :=
    (List.nodup_append.1 (run.visited ▸ run.nodup distinct)).2.1
  have places : (opened.map tree.canonical).toFinset ⊆ tree.files := by
    intro place member
    obtain ⟨path, listed, rfl⟩ := List.mem_map.1 (List.mem_toFinset.1 member)
    obtain ⟨lines, read⟩ := run.files path listed
    obtain ⟨route, isFile, -, same⟩ := FileTree.exists_route read
    exact same ▸ isFile
  calc opened.length = (opened.map tree.canonical).toFinset.card := by
        rw [List.toFinset_card_of_nodup nodup, List.length_map]
    _ ≤ tree.files.card := Finset.card_le_card places

/-! ## Every scan is a run -/

/-- The files that have not been visited. -/
def unvisited (tree : FileTree) (visited : List Route) : Finset Route :=
  tree.files \ visited.toFinset

theorem mem_unvisited {visited : List Route} {route : Route} :
    route ∈ unvisited tree visited ↔ route ∈ tree.files ∧ route ∉ visited := by
  rw [unvisited, Finset.mem_sdiff, List.mem_toFinset]

theorem unvisited_subset {visited later : List Route} (kept : visited ⊆ later) :
    unvisited tree later ⊆ unvisited tree visited := by
  intro route member
  obtain ⟨isFile, fresh⟩ := mem_unvisited.1 member
  exact mem_unvisited.2 ⟨isFile, fun listed => fresh (kept listed)⟩

/-- **Opening a file leaves fewer files that have not been visited.** -/
theorem Opens.unvisited_lt
    (opens : Opens tree directory text pending progress path lines entered) :
    (unvisited tree entered.visited).card < (unvisited tree progress.visited).card := by
  have kept := opens.visited
  cases opens with
  | inclusion mark found fresh read =>
    obtain ⟨route, isFile, -, same⟩ := FileTree.exists_route read
    rw [same] at fresh
    refine Finset.card_lt_card (Finset.ssubset_iff_subset_ne.2 ⟨unvisited_subset ?_, ?_⟩)
    · rw [kept]
      exact List.subset_append_left ..
    · intro equal
      have before : route ∈ unvisited tree progress.visited :=
        mem_unvisited.2 ⟨isFile, fresh⟩
      rw [← equal] at before
      refine (mem_unvisited.1 before).2 ?_
      rw [kept, same]
      exact List.mem_append_right _ List.mem_cons_self

/-- If files are scanned by runs, so are lines. -/
theorem exists_run_of_inner {scan : LineScan} {bound : Nat}
    (inner : ∀ {text pending progress path lines entered},
      Opens tree directory text pending progress path lines entered →
      (unvisited tree progress.visited).card ≤ bound →
      ∃ nesting opened, Run tree (some path.parent) (some path.text) 0 lines (.comments [])
        entered (scan (some path.parent) (some path.text) lines entered) nesting opened)
    (few : (unvisited tree progress.visited).card ≤ bound) :
    ∃ nesting opened, Run tree directory file number lines pending progress
      (scanLines tree scan directory file number lines pending progress) nesting opened := by
  induction lines generalizing number pending progress with
  | nil => exact ⟨0, [], .ends⟩
  | cons text rest ih =>
    rw [scanLines]
    rcases scanLine_cases tree directory file number text pending progress with
      ⟨result, same⟩ | ⟨path, lines, entered, opens⟩
    · rw [same scan]
      rcases result with stopped | ⟨next, middle⟩
      · exact ⟨0, [], .stops same⟩
      · obtain ⟨nesting, opened, others⟩ :=
          @ih (number + 1) next middle (visited_of_stays same ▸ few)
        exact ⟨nesting, opened, .stays same others⟩
    · obtain ⟨depth, within, run⟩ := inner opens few
      rw [opens.scanLine_eq]
      cases ended : scan (some path.parent) (some path.text) lines entered with
      | error stopped => exact ⟨_, _, .stopsWithin opens (ended ▸ run)⟩
      | ok middle =>
        rw [ended] at run
        have kept : progress.visited ⊆ middle.visited := by
          have all := run.visited
          rw [lastProgress, opens.visited, List.append_assoc] at all
          rw [all]
          exact List.subset_append_left ..
        obtain ⟨nesting, opened, others⟩ := @ih (number + 1) (.comments []) middle
          ((Finset.card_le_card (unvisited_subset kept)).trans few)
        exact ⟨_, _, .enters opens run others⟩

/-- **A scan is a run if its depth is not smaller than the number of files that have not been
visited.** -/
theorem exists_run {depth : Nat}
    (few : (unvisited tree progress.visited).card ≤ depth) :
    ∃ nesting opened, Run tree directory file number lines pending progress
      (scanLines tree (scanTo tree depth) directory file number lines pending progress)
      nesting opened := by
  induction depth generalizing directory file number lines pending progress with
  | zero =>
    refine exists_run_of_inner (fun opens few => ?_) few
    have fewer := opens.unvisited_lt
    omega
  | succ depth ih =>
    refine exists_run_of_inner (fun opens few => ?_) few
    have fewer := opens.unvisited_lt
    exact ih (by omega)

/-! ## Runs are determined -/

/-- A line that opens a file depends on how files are scanned. -/
theorem Opens.not_constant (opens : Opens tree directory text pending progress path lines entered)
    {result : Except Stopped (Pending × Progress)} :
    ¬ ∀ scan, scanLine tree scan directory file number text pending progress = result := by
  intro same
  have given := (same refuse).trans (same fun _ _ _ progress => .ok progress).symm
  rw [opens.scanLine_eq, opens.scanLine_eq] at given
  cases given

theorem Opens.unique (opens : Opens tree directory text pending progress path lines entered)
    {other : Path} {others : List Text} {middle : Progress}
    (again : Opens tree directory text pending progress other others middle) :
    path = other ∧ lines = others ∧ entered = middle := by
  cases opens with
  | inclusion mark found fresh read =>
    cases again with
    | inclusion markAgain foundAgain freshAgain readAgain =>
      cases mark.symm.trans markAgain
      cases found.symm.trans foundAgain
      cases read.symm.trans readAgain
      exact ⟨rfl, rfl, rfl⟩

/-- **There is at most one run from given lines.** -/
theorem Run.unique
    (run : Run tree directory file number lines pending progress outcome nesting opened)
    {result : Except Stopped Progress} {depth : Nat} {paths : List Path}
    (again : Run tree directory file number lines pending progress result depth paths) :
    outcome = result ∧ nesting = depth ∧ opened = paths := by
  induction run generalizing result depth paths with
  | ends =>
    cases again
    exact ⟨rfl, rfl, rfl⟩
  | stays line others ih =>
    cases again with
    | stays lineAgain othersAgain =>
      cases (line refuse).symm.trans (lineAgain refuse)
      exact ih othersAgain
    | stops lineAgain => cases (line refuse).symm.trans (lineAgain refuse)
    | enters opens inner othersAgain => exact absurd line opens.not_constant
    | stopsWithin opens inner => exact absurd line opens.not_constant
  | stops line =>
    cases again with
    | stays lineAgain othersAgain => cases (line refuse).symm.trans (lineAgain refuse)
    | stops lineAgain =>
      cases (line refuse).symm.trans (lineAgain refuse)
      exact ⟨rfl, rfl, rfl⟩
    | enters opens inner othersAgain => exact absurd line opens.not_constant
    | stopsWithin opens inner => exact absurd line opens.not_constant
  | enters opens inner others ihInner ihOthers =>
    cases again with
    | stays line othersAgain => exact absurd line opens.not_constant
    | stops line => exact absurd line opens.not_constant
    | enters opensAgain innerAgain othersAgain =>
      obtain ⟨rfl, rfl, rfl⟩ := opens.unique opensAgain
      obtain ⟨ended, rfl, rfl⟩ := ihInner innerAgain
      cases ended
      obtain ⟨rfl, rfl, rfl⟩ := ihOthers othersAgain
      exact ⟨rfl, rfl, rfl⟩
    | stopsWithin opensAgain innerAgain =>
      obtain ⟨rfl, rfl, rfl⟩ := opens.unique opensAgain
      cases (ihInner innerAgain).1
  | stopsWithin opens inner ih =>
    cases again with
    | stays line othersAgain => exact absurd line opens.not_constant
    | stops line => exact absurd line opens.not_constant
    | enters opensAgain innerAgain othersAgain =>
      obtain ⟨rfl, rfl, rfl⟩ := opens.unique opensAgain
      cases (ih innerAgain).1
    | stopsWithin opensAgain innerAgain =>
      obtain ⟨rfl, rfl, rfl⟩ := opens.unique opensAgain
      obtain ⟨ended, rfl, rfl⟩ := ih innerAgain
      cases ended
      exact ⟨rfl, rfl, rfl⟩

end Runs

end Sm83Cost.Scan
