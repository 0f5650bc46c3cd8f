import Sm83Cost.Proofs.Routine.Registration
import Sm83Cost.Proofs.Scan.Abreast

/-!
# Scanning again

A scan begins without macros but with the routines of earlier scans, so a document
that is scanned a second time is not scanned from the same start.  Nothing that a
scan does depends on the routines, however.  Whatever they are, the same macros are
registered and the same routines are added to them, in the same order
(`scan_alongside`).

Adding definitions a second time, in the same order, changes nothing
(`Registry.foldl_register_again`).  That is not because each of them is there
already.  A name may be defined more than once, and the second time its earlier
definitions take the place of the last one for a while.

So nothing is new after a document is scanned again (`Scanner.scan_again`).
-/

namespace Sm83Cost

set_option autoImplicit false

/-! ## Registering again -/

namespace Registry

variable {α : Type} [Named α]

/-- The name of a definition is known once it is registered, and names stay known. -/
theorem mem_keys_register {registry : Registry α} {definition : α} {key : Text} :
    key ∈ (registry.register definition).keys ↔
      key = Text.upper (Named.name definition) ∨ key ∈ registry.keys :=
  Store.mem_keys_put registry _ key definition

theorem mem_keys_foldl_register {definitions : List α} {registry : Registry α} {definition : α}
    (member : definition ∈ definitions) :
    Text.upper (Named.name definition) ∈ (definitions.foldl register registry).keys := by
  induction definitions using List.reverseRecOn with
  | nil => cases member
  | append_singleton earlier last ih =>
    rw [List.foldl_append, List.foldl_cons, List.foldl_nil, mem_keys_register]
    rcases List.mem_append.1 member with before | here
    · exact .inr (ih before)
    · exact .inl (List.mem_singleton.1 here ▸ rfl)

/-- A definition does not need to be registered before others whose names are known, if it is
registered behind them. -/
theorem register_foldl_register (definition : α) {others : List α} {registry : Registry α}
    (known : ∀ other ∈ others, Text.upper (Named.name other) ∈ registry.keys) :
    register (others.foldl register (registry.register definition)) definition =
      register (others.foldl register registry) definition := by
  induction others generalizing registry with
  | nil => exact Store.put_put_self registry _ definition definition
  | cons other rest ih =>
    obtain ⟨here, later⟩ := List.forall_mem_cons.1 known
    rw [List.foldl_cons, List.foldl_cons]
    by_cases same : Text.upper (Named.name other) = Text.upper (Named.name definition)
    · -- The definition is replaced at once.
      have replaced : (registry.register definition).register other = registry.register other := by
        simp only [register, same, Store.put_put_self]
      rw [replaced]
    · have exchanged : (registry.register definition).register other =
          (registry.register other).register definition :=
        Store.put_put_of_ne same definition other here
      rw [exchanged]
      apply ih
      intro next member
      exact mem_keys_register.2 (.inr (later next member))

/-- **Registering the same definitions again changes nothing**, not even their order. -/
theorem foldl_register_again (definitions : List α) (registry : Registry α) :
    definitions.foldl register (definitions.foldl register registry) =
      definitions.foldl register registry := by
  induction definitions using List.reverseRecOn with
  | nil => rfl
  | append_singleton earlier last ih =>
    have known : ∀ other ∈ earlier,
        Text.upper (Named.name other) ∈ (earlier.foldl register registry).keys :=
      fun other member => mem_keys_foldl_register member
    simp only [List.foldl_append, List.foldl_cons, List.foldl_nil]
    rw [register_foldl_register last known, ih]

end Registry

/-! ## Scans with different routines -/

namespace Scan

/-- The scans are at the same point, with the same macros, and have added the same routines to those
that they began with. -/
structure Alongside (table : Opcode.Table) (pinned : Option (Registry Macro))
    (known known' : Registry Routine) (first second : Progress) : Prop where
  abreast : Abreast .whole table pinned first second
  routines : ∃ documented : List Routine,
    first.scanner.routines = documented.foldl Registry.register known ∧
      second.scanner.routines = documented.foldl Registry.register known'

section Alongside

variable {table : Opcode.Table} {pinned : Option (Registry Macro)}
  {known known' : Registry Routine} {tree : FileTree} {scan : LineScan}
  {first second : Progress}

theorem Alongside.note (same : Alongside table pinned known known' first second)
    (records others : List Record) :
    Alongside table pinned known known' (first.note records) (second.note others) :=
  ⟨same.abreast.note records others, same.routines⟩

theorem Alongside.visit (same : Alongside table pinned known known' first second) (place : Route) :
    Alongside table pinned known known' (first.visit place) (second.visit place) :=
  ⟨same.abreast.visit place, same.routines⟩

/-- Both scans add the routine of a label, or neither does. -/
theorem Alongside.documentLabel (same : Alongside table pinned known known' first second)
    (file : Option Text) (name : Text) (number : Nat) (comments : List Text) :
    Alongside table pinned known known' (documentLabel file name number comments first)
      (documentLabel file name number comments second) := by
  obtain ⟨documented, here, there⟩ := same.routines
  simp only [Scan.documentLabel]
  split
  · exact same
  · obtain ⟨⟨tables, pins, macros⟩, visited⟩ := same.abreast
    let routine : Routine :=
      { name, file, line := number, arguments := (Comments.summarise comments).arguments,
        description := (Comments.summarise comments).description }
    refine ⟨⟨⟨tables, pins, macros⟩, visited⟩, documented ++ [routine], ?_, ?_⟩
    · rw [Progress.addRoutine_scanner, here, List.foldl_append]
      rfl
    · rw [Progress.addRoutine_scanner, there, List.foldl_append]
      rfl

/-- The end of a macro does not touch the routines. -/
theorem closeBlock_alongside (same : Alongside table pinned known known' first second)
    (block : Block) (number : Nat) :
    Parallel (fun _ _ => True) (Alongside table pinned known known')
      (closeBlock block number first) (closeBlock block number second) := by
  have lines : AlikeLines Eq block.lines block.lines := List.forall₂_same.2 fun _ _ => ⟨rfl, rfl⟩
  have together := closeBlock_abreast View.indifferent_whole same.abreast rfl rfl lines number
  generalize here : closeBlock block number first = outcome at together ⊢
  generalize there : closeBlock block number second = outcome' at together ⊢
  cases together with
  | error related => exact .error trivial
  | ok related =>
    refine .ok ⟨related, ?_⟩
    rw [routines_of_closeBlock here, routines_of_closeBlock there]
    exact same.routines

/-- A way of scanning keeps two scans alongside each other. -/
def KeepsAlongside (table : Opcode.Table) (pinned : Option (Registry Macro))
    (known known' : Registry Routine) (scan : LineScan) : Prop :=
  ∀ ⦃directory : Option Path⦄ ⦃file : Option Text⦄ ⦃lines : List Text⦄ ⦃first second : Progress⦄,
    Alongside table pinned known known' first second →
    Parallel (fun _ _ => True) (Alongside table pinned known known')
      (scan directory file lines first) (scan directory file lines second)

theorem scanInclusion_alongside (deeper : KeepsAlongside table pinned known known' scan)
    (same : Alongside table pinned known known' first second) (directory : Path) (target : Text) :
    Parallel (fun _ _ => True) (Alongside table pinned known known')
      (scanInclusion tree scan directory target first)
      (scanInclusion tree scan directory target second) := by
  have places := same.abreast.visited
  cases found : resolve? tree directory target with
  | none =>
    rw [scanInclusion_of_missing scan found, scanInclusion_of_missing scan found]
    exact .ok ((same.note _ _).note _ _)
  | some path =>
    by_cases visited : tree.canonical path ∈ second.visited
    · rw [scanInclusion_of_known scan found (places ▸ visited),
        scanInclusion_of_known scan found visited]
      exact .ok (same.note _ _)
    · rw [scanInclusion_of_fresh scan found (places ▸ visited),
        scanInclusion_of_fresh scan found visited]
      cases tree.readLines path with
      | error error => exact .ok (((same.note _ _).visit _).note _ _)
      | ok lines => exact deeper (((same.note _ _).visit _).note _ _)

/-- One line does the same to both scans. -/
theorem scanLine_alongside (deeper : KeepsAlongside table pinned known known' scan)
    (same : Alongside table pinned known known' first second) (directory : Option Path)
    (file : Option Text) (number : Nat) (text : Text) (pending : Pending) :
    Parallel (fun _ _ => True)
      (fun after after' => after.1 = after'.1 ∧
        Alongside table pinned known known' after.2 after'.2)
      (scanLine tree scan directory file number text pending first)
      (scanLine tree scan directory file number text pending second) := by
  cases pending with
  | block block =>
    simp only [scanLine]
    split
    · refine (closeBlock_alongside same block number).bind ?_
      intro after after' still
      exact .ok ⟨rfl, still⟩
    · exact .ok ⟨rfl, same⟩
  | comments comments =>
    simp only [scanLine]
    split
    · split
      · exact .ok ⟨rfl, same⟩
      · refine (scanInclusion_alongside deeper same _ _).bind ?_
        intro after after' still
        exact .ok ⟨rfl, still⟩
    · exact .ok ⟨rfl, same⟩
    · exact .ok ⟨rfl, same.documentLabel file _ number comments⟩
    · rw [Scanner.parseLine, Scanner.parseLine, same.abreast.scanner.recognises]
      split
      · exact .ok ⟨rfl, same⟩
      · exact .error trivial

theorem scanLines_alongside (deeper : KeepsAlongside table pinned known known' scan)
    (same : Alongside table pinned known known' first second) (directory : Option Path)
    (file : Option Text) (number : Nat) (lines : List Text) (pending : Pending) :
    Parallel (fun _ _ => True) (Alongside table pinned known known')
      (scanLines tree scan directory file number lines pending first)
      (scanLines tree scan directory file number lines pending second) := by
  induction lines generalizing number pending first second with
  | nil =>
    rw [scanLines, scanLines]
    cases pending with
    | comments comments => exact .ok same
    | block block => exact .ok (same.note _ _)
  | cons text rest ih =>
    rw [scanLines, scanLines]
    refine (scanLine_alongside deeper same directory file number text pending).bind ?_
    rintro ⟨next, after⟩ ⟨_, after'⟩ ⟨rfl, still⟩
    exact ih still (number + 1) next

theorem keepsAlongside_scanTo (table : Opcode.Table) (pinned : Option (Registry Macro))
    (known known' : Registry Routine) (tree : FileTree) (depth : Nat) :
    KeepsAlongside table pinned known known' (scanTo tree depth) := by
  induction depth with
  | zero =>
    intro directory file lines first second same
    exact .ok same
  | succ depth ih =>
    intro directory file lines first second same
    exact scanLines_alongside ih same directory file 0 lines (.comments [])

end Alongside

/-- **A scan adds the same routines to those that are known, whatever they are**, and finds the same
macros.  The scanners need to have nothing in common but their tables and pinned macros. -/
theorem scan_alongside {first second : Scanner} (tables : first.table = second.table)
    (pins : first.pinned = second.pinned) (tree : FileTree) (lines : List Text)
    (directory : Option Path) (file : Option Text) :
    Parallel (fun _ _ => True)
      (Alongside second.table second.pinned first.routines second.routines)
      (first.scan tree lines directory file) (second.scan tree lines directory file) := by
  have cleared : Alongside second.table second.pinned first.routines second.routines
      { scanner := { first with macros := .empty } }
      { scanner := { second with macros := .empty } } :=
    ⟨⟨⟨⟨tables, rfl⟩, ⟨pins, rfl⟩, rfl⟩, rfl⟩, [], rfl, rfl⟩
  have goes := keepsAlongside_scanTo second.table second.pinned first.routines second.routines
    tree (tree.nodes.length + 1)
  unfold Scanner.scan
  cases file with
  | none => exact goes cleared
  | some name =>
    simp only [Option.map_some]
    split
    · exact .error trivial
    · exact goes (cleared.visit _)

end Scan

/-! ## The same document -/

/-- Scanners with the same table, pinned macros and routines, and whose macros look alike without
anything left out, are equal. -/
theorem Scanner.Abreast.eq {table : Opcode.Table} {pinned : Option (Registry Macro)}
    {first second : Scanner} (same : Scanner.Abreast .whole table pinned first second)
    (routines : first.routines = second.routines) : first = second := by
  obtain ⟨⟨tableHere, tableThere⟩, ⟨pinHere, pinThere⟩, macros⟩ := same
  rw [Macro.seen_whole, Store.map_id, Store.map_id] at macros
  cases first
  cases second
  cases tableHere.trans tableThere.symm
  cases pinHere.trans pinThere.symm
  cases macros
  cases routines
  rfl

/-- **Scanning a document again changes nothing.**  If a document is scanned to its end, it can be
scanned again with the same files, directory and name, and the macros and routines that are known
are then those of before, with all that is known about them, and in the same order. -/
theorem Scanner.scan_again {scanner : Scanner} {tree : FileTree} {lines : List Text}
    {directory : Option Path} {file : Option Text} {first : Scan.Progress}
    (scanned : scanner.scan tree lines directory file = .ok first) :
    ∃ second, first.scanner.scan tree lines directory file = .ok second ∧
      second.scanner = first.scanner := by
  have itself := Scan.scan_alongside (Eq.refl scanner.table) (Eq.refl scanner.pinned) tree lines
    directory file
  rw [scanned] at itself
  cases itself with
  | ok alone =>
    obtain ⟨tables, -⟩ := alone.abreast.scanner.tables
    obtain ⟨pins, -⟩ := alone.abreast.scanner.pins
    have together := Scan.scan_alongside tables.symm pins.symm tree lines directory file
    rw [scanned] at together
    generalize first.scanner.scan tree lines directory file = again at together ⊢
    cases together with
    | @ok _ second related =>
      obtain ⟨documented, here, there⟩ := related.routines
      refine ⟨second, rfl, (related.abreast.scanner.eq ?_).symm⟩
      calc first.scanner.routines
          = documented.foldl Registry.register scanner.routines := here
        _ = documented.foldl Registry.register
              (documented.foldl Registry.register scanner.routines) :=
            (Registry.foldl_register_again documented scanner.routines).symm
        _ = second.scanner.routines := by rw [there, ← here]

/-- A document documents a name that an included file documents too, and both end a macro of one
name. -/
theorem Scanner.scan_again_redefined :
    let tree : FileTree := { nodes := [(["lib.inc".toList], .file
      ("; From the library.\nAdd:\nSum: MACRO\n nop\nENDM".toList.map fun c => c.toNat.toUInt8))] }
    let document : List Text := ["; DE = from".toList, "Copy:".toList,
      "INCLUDE \"lib.inc\"".toList, "; HL = sum".toList, "ADD::".toList, "sum: MACRO".toList,
      " ret".toList, "ENDM".toList]
    ∃ first, ({} : Scanner).scan tree document (some {}) none = .ok first ∧
      first.scanner.routines.pairs.map (fun pair => (pair.1, pair.2.file, pair.2.line)) =
        [("COPY".toList, none, 1), ("ADD".toList, none, 4)] ∧
      ∃ second, first.scanner.scan tree document (some {}) none = .ok second ∧
        second.scanner = first.scanner := by
  intro tree document
  have held : (({} : Scanner).scan tree document (some {}) none).toOption.map (fun first =>
      first.scanner.routines.pairs.map fun pair => (pair.1, pair.2.file, pair.2.line)) =
        some [("COPY".toList, none, 1), ("ADD".toList, none, 4)] := by
    decide +kernel
  cases scanned : ({} : Scanner).scan tree document (some {}) none with
  | error stopped =>
    rw [scanned] at held
    cases held
  | ok first =>
    rw [scanned] at held
    exact ⟨first, rfl, Option.some.inj held, Scanner.scan_again scanned⟩

end Sm83Cost
