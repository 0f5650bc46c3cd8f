import Sm83Cost.Proofs.Registry.History
import Sm83Cost.Proofs.Routine.Registers
import Sm83Cost.Proofs.Scan.Keeping
import Sm83Cost.Workspace

/-!
# Routines that can come about

Routines are registered in one place only, where a label is reached whose comments
say something.  But many ways lead there: a document may be scanned by itself or
with the files that it includes, a workspace scans all files below some roots, and
a scan may be given up in between and be followed by others.  `Scanner.Reachable`
says which scanners come about in these ways.

Whatever holds of no routines, and survives one more routine that comments speak
of, holds in all of them (`Scanner.Reachable.routines`).  Two properties are of this
kind.  Routines are held under their own names in capitals (`Registry.Keyed`), and
they are as comments can make them (`Routine.Sound`): they are documented, their
arguments are in registers, and their descriptions are texts that could not be read
in any other way.
-/

namespace Sm83Cost

set_option autoImplicit false

/-! ## What comments can say -/

/-- The argument is in a register, which is written in small letters, and no blanks are around its
description. -/
structure Argument.Sound (argument : Argument) : Prop where
  register : argument.register ∈ Comments.registers
  description : Text.IsTrimmed argument.description

example : Comments.registers =
    (["a", "b", "c", "d", "e", "h", "l", "af", "bc", "de", "hl", "sp", "pc"] : List String).map
      String.toList := by
  decide

namespace Comments

variable {word description line text : Text} {argument : Argument} {comments : List Text}

/-- The text can describe a routine: it has no blanks around it and is not made of dashes and equals
signs only, and none of the three ways of writing arguments fits it. -/
structure Describes (text : Text) : Prop where
  trimmed : Text.IsTrimmed text
  unruled : ∃ c ∈ text, c ≠ '-' ∧ c ≠ '='
  unlisted : listed? text = none
  unmarked : single? text = none
  unnamed : parameter? text = none

theorem Describes.ne_nil (describes : Describes text) : text ≠ [] := by
  obtain ⟨c, member, -⟩ := describes.unruled
  exact List.ne_nil_of_mem member

theorem sound_of_argument? (named : argument? word description = some argument) :
    argument.Sound := by
  simp only [argument?] at named
  split at named
  · rename_i register
    cases named
    exact ⟨List.contains_iff_mem.1 register, Text.isTrimmed_trim description⟩
  · cases named

theorem sound_of_listed? {found : List Argument} (listed : listed? line = some found)
    (member : argument ∈ found) : argument.Sound := by
  obtain ⟨list, -, rfl⟩ := Option.map_eq_some_iff.1 listed
  obtain ⟨piece, -, read⟩ := List.mem_filterMap.1 member
  obtain ⟨parts, -, named⟩ := Option.bind_eq_some_iff.1 read
  exact sound_of_argument? named

/-- Single registers and parameters are read alike from a word and a description. -/
theorem sound_of_parts {parts : Option (Text × Text)} {found : List Argument}
    (read : (parts.bind fun (word, description) => (argument? word description).map ([·])) =
      some found) (member : argument ∈ found) : argument.Sound := by
  obtain ⟨⟨word, description⟩, -, made⟩ := Option.bind_eq_some_iff.1 read
  obtain ⟨only, named, rfl⟩ := Option.map_eq_some_iff.1 made
  rw [List.mem_singleton.1 member]
  exact sound_of_argument? named

/-- Whatever the way of writing, what is read are arguments in registers. -/
theorem sound_of_recognise? {found : List Argument} (recognised : recognise? line = some found)
    (member : argument ∈ found) : argument.Sound := by
  rw [recognise?, Option.or_eq_some_iff, Option.or_eq_some_iff] at recognised
  rcases recognised with listed | ⟨-, single | ⟨-, parameter⟩⟩
  · exact sound_of_listed? listed member
  · exact sound_of_parts single member
  · exact sound_of_parts parameter member

theorem sound_of_mem_arguments (read : argument ∈ (summarise comments).arguments) :
    argument.Sound := by
  obtain ⟨comment, -, found, recognised, among⟩ := mem_arguments_iff.1 read
  exact sound_of_recognise? recognised among

theorem describes_of_not_isRuler (trimmed : Text.IsTrimmed line) (some : line ≠ [])
    (unruled : isRuler line = false) (unrecognised : recognise? line = none) :
    Describes line := by
  rw [recognise?, Option.or_eq_none_iff, Option.or_eq_none_iff] at unrecognised
  obtain ⟨unlisted, unmarked, unnamed⟩ := unrecognised
  refine ⟨trimmed, ?_, unlisted, unmarked, unnamed⟩
  simpa [isRuler, some] using unruled

/-- A comment is kept as a description only if it can be one, and no description is replaced. -/
theorem describes_of_add {summary : Summary} (comment : Text)
    (known : ∀ text, summary.description = some text → Describes text)
    (described : (summary.add comment).description = some text) : Describes text := by
  simp only [Summary.add] at described
  split at described
  · exact known text described
  · rename_i unrecognised
    split at described
    · rename_i fits
      cases described
      simp only [Bool.and_eq_true, Bool.not_eq_true', List.isEmpty_eq_false_iff] at fits
      exact describes_of_not_isRuler (Text.isTrimmed_trim comment) fits.1.2 fits.2 unrecognised
    · exact known text described

theorem describes_of_summarise (described : (summarise comments).description = some text) :
    Describes text := by
  have collected : ∀ summary : Summary,
      (∀ text, summary.description = some text → Describes text) →
      (comments.foldl Summary.add summary).description = some text → Describes text := by
    clear described
    induction comments with
    | nil => exact fun summary known => known text
    | cons comment rest ih =>
      intro summary known
      exact ih (summary.add comment) fun text => describes_of_add comment known
  apply collected {} _ described
  intro text none
  cases none

end Comments

/-- The routine is as comments can make it. -/
structure Routine.Sound (routine : Routine) : Prop where
  documented : routine.isDocumented = true
  arguments : ∀ argument ∈ routine.arguments, argument.Sound
  description : ∀ text, routine.description = some text → Comments.Describes text

/-- What comments say is sound. -/
theorem Scan.SaidBy.sound {comments : List Text} {routine : Routine}
    (said : SaidBy comments routine) : routine.Sound := by
  obtain ⟨spoken, arguments, description⟩ := said
  have describes : ∀ text, routine.description = some text → Comments.Describes text := by
    intro text described
    exact Comments.describes_of_summarise (description ▸ described)
  refine ⟨?_, ?_, describes⟩
  · rw [Comments.Summary.isSilent, ← arguments, ← description] at spoken
    cases described : routine.description with
    | none => simpa [Routine.isDocumented, described] using spoken
    | some text =>
      have full := (describes text described).ne_nil
      simp [Routine.isDocumented, described, full]
  · intro argument member
    rw [arguments] at member
    exact Comments.sound_of_mem_arguments member

/-! ## Scanners that come about -/

/-- The scanner comes about: it knows no routine yet, or it is left behind by the scan of a
document, by forgetting everything, or by the scan of a workspace.  Files may change in between, and
it does not matter whether a scan comes to its end. -/
inductive Scanner.Reachable : Scanner → Prop where
  | begins {scanner : Scanner} (unknown : scanner.routines = .empty) : Reachable scanner
  | scans {scanner : Scanner} (before : Reachable scanner) (tree : FileTree) (lines : List Text)
      (directory : Option Path) (file : Option Text) :
      Reachable (Scan.lastProgress (scanner.scan tree lines directory file)).scanner
  | clears {scanner : Scanner} (before : Reachable scanner) : Reachable scanner.clear
  | walks {scanner : Scanner} (before : Reachable scanner) (tree : FileTree) (roots : List Path) :
      Reachable (({ scanner } : Workspace).scan tree roots).workspace.scanner

section Routines

variable {good : Registry Routine → Prop}
  (register : ∀ {routines : Registry Routine} {comments : List Text} {routine : Routine},
    good routines → Scan.SaidBy comments routine → good (routines.register routine))
include register

/-- Macros do not matter to the routines. -/
theorem Scan.keeps_routines : Scan.Keeps (fun _ => True) (fun scanner => good scanner.routines)
    fun _ scanner => good scanner.routines where
  routines sound said := register sound said
  line sound _ _ := sound
  close := by
    intro block number progress sound _
    have closes : Scan.ScanEnds (fun scanner => good scanner.routines)
        (fun _ scanner => good scanner.routines) (Scan.closeBlock block number progress) :=
      Scan.closeBlock_ends sound sound
    exact closes

/-- A scan keeps what survives one more routine, whether it comes to its end or not. -/
theorem Scanner.routines_scan {scanner : Scanner} (sound : good scanner.routines)
    (tree : FileTree) (lines : List Text) (directory : Option Path) (file : Option Text) :
    good (Scan.lastProgress (scanner.scan tree lines directory file)).scanner.routines := by
  have plain : ∀ text ∈ lines, True := fun _ _ => trivial
  have starts : Scan.ScanEnds (fun scanner => good scanner.routines)
      (fun _ scanner => good scanner.routines) (scanner.start tree file) :=
    Scan.start_ends sound tree file
  have ends : Scan.ScanEnds (fun scanner => good scanner.routines)
      (fun _ scanner => good scanner.routines) (scanner.scan tree lines directory file) :=
    (Scan.keeps_routines register).scan (fun _ _ _ _ _ => trivial) plain starts
  exact Scan.good_of_scanEnds ends

theorem Workspace.routines_scanFiles {scanner : Scanner} (sound : good scanner.routines)
    (tree : FileTree) (count : Nat) (journal : List Record)
    (findings : List FileTree.Finding) :
    good (scanFiles tree scanner count journal findings).workspace.scanner.routines := by
  induction findings generalizing scanner count journal with
  | nil => exact sound
  | cons finding rest ih =>
    cases finding with
    | unlisted directory error => exact ih sound count _
    | source path =>
      rw [scanFiles]
      cases tree.readLines path with
      | error error => exact ih sound count _
      | ok lines =>
        have scanned := scanner.routines_scan register sound tree lines (some path.parent)
          (some path.text)
        dsimp only
        cases outcome : scanner.scan tree lines (some path.parent) (some path.text) with
        | error stopped =>
          rw [outcome] at scanned
          exact scanned
        | ok progress =>
          rw [outcome] at scanned
          exact ih scanned (count + 1) _

theorem Workspace.routines_scanRoots {scanner : Scanner} (sound : good scanner.routines)
    (tree : FileTree) (count : Nat) (journal : List Record) (roots : List Path) :
    good (scanRoots tree scanner count journal roots).workspace.scanner.routines := by
  induction roots generalizing scanner count journal with
  | nil => exact sound
  | cons root rest ih =>
    rw [scanRoots]
    cases tree.walk root with
    | error error => exact sound
    | ok findings =>
      have scanned := routines_scanFiles register sound tree count journal findings
      dsimp only
      split
      · exact scanned
      · exact ih scanned _ _

/-- A workspace forgets its routines before it scans. -/
theorem Workspace.routines_scan (unknown : good .empty) (workspace : Workspace) (tree : FileTree)
    (roots : List Path) : good (workspace.scan tree roots).workspace.scanner.routines := by
  have cleared : good workspace.scanner.clear.routines := unknown
  have scanned := routines_scanRoots register cleared tree 0 [] roots
  rw [scan]
  dsimp only
  split
  · exact scanned
  · exact scanned

/-- **What holds of no routines, and survives one more routine that comments speak of, holds in
every scanner that comes about.** -/
theorem Scanner.Reachable.routines (unknown : good .empty) {scanner : Scanner}
    (reachable : scanner.Reachable) : good scanner.routines := by
  induction reachable with
  | begins none => exact none ▸ unknown
  | scans before tree lines directory file ih =>
    exact Scanner.routines_scan register ih tree lines directory file
  | clears before ih => exact unknown
  | walks before tree roots ih => exact Workspace.routines_scan register unknown _ tree roots

end Routines

theorem Scanner.Reachable.keyed {scanner : Scanner} (reachable : scanner.Reachable) :
    Registry.Keyed scanner.routines :=
  reachable.routines (fun keyed _ => keyed.register _) Registry.keyed_empty

/-- Every routine of the registry is as comments can make it. -/
def Registry.EachSound (routines : Registry Routine) : Prop :=
  ∀ pair ∈ routines.pairs, pair.2.Sound

theorem Registry.EachSound.register {routines : Registry Routine} (known : EachSound routines)
    {routine : Routine} (sound : routine.Sound) : EachSound (routines.register routine) := by
  intro pair member
  rcases Store.eq_or_mem_of_mem_putIn member with rfl | earlier
  · exact sound
  · exact known pair earlier

theorem Scanner.Reachable.eachSound {scanner : Scanner} (reachable : scanner.Reachable) :
    Registry.EachSound scanner.routines :=
  reachable.routines (fun known said => known.register said.sound) (List.forall_mem_nil _)

/-- **Routines are sound and found under their names.**  In every scanner that comes about, each
routine is held under its own name in capitals.  It is documented; its arguments are in registers
and have trimmed descriptions; and its description, if it has one, is a trimmed text that is not
made of dashes and equals signs only and fits none of the three ways of writing arguments. -/
theorem Scanner.reachable_routines_sound {scanner : Scanner} (reachable : scanner.Reachable) :
    ∀ pair ∈ scanner.routines.pairs, pair.1 = Text.upper pair.2.name ∧ pair.2.Sound := by
  intro pair member
  exact ⟨reachable.keyed pair member, reachable.eachSound pair member⟩

/-- A workspace is scanned, with a file that another one includes, and then a document that
documents a name again.  The letter `ſ` is not written as a small `s`, so `ſp` is no register, and
the line is a description. -/
theorem Scanner.reachable_routines_sound_redefined :
    let file (lines : List String) : Node :=
      .file ((String.intercalate "\n" lines).toList.map fun c => c.toNat.toUInt8)
    let tree : FileTree := { nodes := [
      (["main.asm".toList], file ["INCLUDE \"lib.inc\"", "; ----", "; HL = from, b: times",
        "; Copies.", "Copy::"]),
      (["lib.inc".toList], file ["; @param destination", "Add:"])] }
    let roots : List Path := [{ parts := ["main.asm".toList] }]
    let walked := (({} : Workspace).scan tree roots).workspace.scanner
    let document : List Text := ["; ſp - stack".toList, "add:".toList]
    let scanner := (Scan.lastProgress (walked.scan tree document none none)).scanner
    scanner.Reachable ∧
      scanner.routines.pairs.map (fun pair => (pair.1, pair.2.name, pair.2.line)) =
        [("ADD".toList, "add".toList, 1), ("COPY".toList, "Copy".toList, 4)] ∧
      ∀ pair ∈ scanner.routines.pairs, pair.1 = Text.upper pair.2.name ∧ pair.2.Sound := by
  intro file tree roots walked document scanner
  have reachable : scanner.Reachable :=
    .scans (.walks (.begins rfl) tree roots) tree document none none
  have held : scanner.routines.pairs.map (fun pair => (pair.1, pair.2.name, pair.2.line)) =
      [("ADD".toList, "add".toList, 1), ("COPY".toList, "Copy".toList, 4)] := by
    decide +kernel
  exact ⟨reachable, held, Scanner.reachable_routines_sound reachable⟩

end Sm83Cost
