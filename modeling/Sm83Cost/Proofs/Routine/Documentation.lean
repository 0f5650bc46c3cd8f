import Sm83Cost.Proofs.Repetition
import Sm83Cost.Proofs.Routine.Reachable
import Sm83Cost.Proofs.Text.Trim

/-!
# The routines that a line refers to

A line of source refers to the place that control goes to, and to every name behind
an opening bracket in its operands.  The routines of these names are looked up in
capitals, and of routines that are equal only the first is kept.

That routines are equal and that names are the same in capitals are different
things.  They come to the same because a routine is held under one name only, its own
in capitals (`Scanner.Reachable.keyed`).  So each name is answered once, where it is
first met, however it is written there and later on
(`Workspace.documentation_of_reachable`).  Names count as written differently in case
only if they are the same in capitals, here and where routines are registered.
-/

namespace Sm83Cost

set_option autoImplicit false

/-! ## Names behind brackets -/

/-- The text begins with this name, which is a word that an ASCII letter or an underscore begins,
and which is not followed by a word character. -/
def BeginsWithName (text name : Text) : Prop :=
  ∃ first more after, text = first :: (more ++ after) ∧ name = first :: more ∧
    (first.isAlpha = true ∨ first = '_') ∧ (∀ c ∈ more, Text.isWord c = true) ∧
    after.head?.any Text.isWord = false

/-- The name stands behind the opening bracket at this index of the text. -/
def ReferenceAt (text : Text) (index : Nat) (name : Text) : Prop :=
  ∃ rest, text.drop index = '[' :: rest ∧ BeginsWithName rest name

/-- These are all names behind opening brackets of the text, with their places, in order. -/
structure References (text : Text) (references : List (Nat × Text)) : Prop where
  ordered : references.Pairwise fun one later => one.1 < later.1
  exact : ∀ index name, (index, name) ∈ references ↔ ReferenceAt text index name

namespace Workspace

theorem leadingName?_eq_some_iff {text name : Text} :
    leadingName? text = some name ↔ BeginsWithName text name := by
  cases text with
  | nil =>
    constructor
    · exact nofun
    · rintro ⟨first, more, after, split, -⟩
      cases split
  | cons c rest =>
    rw [leadingName?]
    constructor
    · intro found
      split at found
      · rename_i begins
        cases found
        refine ⟨c, rest.takeWhile Text.isWord, rest.dropWhile Text.isWord, ?_, rfl, ?_,
          fun _ => List.mem_takeWhile_imp, ?_⟩
        · rw [List.takeWhile_append_dropWhile]
        · simpa using begins
        · have stops := List.head?_dropWhile_not Text.isWord rest
          cases behind : (rest.dropWhile Text.isWord).head? with
          | none => rfl
          | some next =>
            rw [behind] at stops
            simpa using stops
      · cases found
    · rintro ⟨first, more, after, split, rfl, begins, word, stops⟩
      cases split
      have read : (more ++ after).takeWhile Text.isWord = more := by
        rw [Text.takeWhile_append_of_head? stops, List.takeWhile_eq_self_iff.2 word]
      have fits : (c.isAlpha || c == '_') = true := by simpa using begins
      rw [if_pos fits, read]

/-- A reference is at the beginning, or it is one of the rest. -/
theorem referenceAt_cons_iff {c : Char} {rest : Text} {index : Nat} {name : Text} :
    ReferenceAt (c :: rest) index name ↔
      index = 0 ∧ c = '[' ∧ leadingName? rest = some name ∨
        ∃ place, index = place + 1 ∧ ReferenceAt rest place name := by
  cases index with
  | zero =>
    rw [ReferenceAt, List.drop_zero, leadingName?_eq_some_iff]
    constructor
    · rintro ⟨_, split, begins⟩
      cases split
      exact .inl ⟨rfl, rfl, begins⟩
    · rintro (⟨-, rfl, begins⟩ | ⟨place, impossible, -⟩)
      · exact ⟨rest, rfl, begins⟩
      · cases impossible
  | succ place =>
    simp [ReferenceAt]

/-- The names that are collected are those behind opening brackets, in order. -/
theorem exists_references (text : Text) :
    ∃ references, References text references ∧ bracketedNames text = references.map Prod.snd := by
  induction text with
  | nil =>
    refine ⟨[], ⟨List.Pairwise.nil, fun index name => ?_⟩, rfl⟩
    simp [ReferenceAt]
  | cons c rest ih =>
    obtain ⟨later, ⟨ordered, exact⟩, names⟩ := ih
    let here : Option Text := if c = '[' then leadingName? rest else none
    let shifted := later.map fun reference => (reference.1 + 1, reference.2)
    have isHere : ∀ name, here = some name ↔ c = '[' ∧ leadingName? rest = some name := by
      intro name
      simp [here]
    refine ⟨here.toList.map (fun name => (0, name)) ++ shifted, ⟨?_, ?_⟩, ?_⟩
    · refine List.pairwise_append.2 ⟨?_, ?_, ?_⟩
      · cases here <;> simp
      · exact List.pairwise_map.2 (ordered.imp fun less => Nat.succ_lt_succ less)
      · rintro ⟨first, name⟩ begins ⟨second, other⟩ behind
        obtain ⟨_, -, same⟩ := List.mem_map.1 begins
        obtain ⟨_, -, same'⟩ := List.mem_map.1 behind
        cases same
        cases same'
        exact Nat.succ_pos _
    · intro index name
      rw [referenceAt_cons_iff, List.mem_append]
      refine or_congr ?_ ?_
      · rw [← isHere name]
        cases here <;> simp [eq_comm, and_comm]
      · simp only [shifted, List.mem_map, Prod.mk.injEq, Prod.exists]
        constructor
        · rintro ⟨place, other, member, rfl, rfl⟩
          exact ⟨place, rfl, (exact place other).1 member⟩
        · rintro ⟨place, rfl, reference⟩
          exact ⟨place, name, (exact place name).2 reference, rfl, rfl⟩
    · rw [bracketedNames, names, List.map_append]
      congr 1
      · simp only [here]
        split <;> simp [Function.comp_def]
      · simp [shifted, Function.comp_def]

/-- Each operand has its references. -/
theorem exists_references_of_operands (operands : List Text) :
    ∃ references, List.Forall₂ References operands references ∧
      operands.flatMap bracketedNames = references.flatten.map Prod.snd := by
  induction operands with
  | nil => exact ⟨[], .nil, rfl⟩
  | cons operand rest ih =>
    obtain ⟨others, are, names⟩ := ih
    obtain ⟨references, here, first⟩ := exists_references operand
    refine ⟨references :: others, .cons here are, ?_⟩
    rw [List.flatMap_cons, List.flatten_cons, List.map_append, first, names]

end Workspace

/-! ## Their routines -/

/-- The definitions that are found under keys have these keys for names. -/
theorem Registry.Keyed.sublist {α : Type} [Named α] {registry : Registry α} (keyed : Keyed registry)
    (keys : List Text) :
    ((keys.filterMap registry.get?).map fun definition =>
      Text.upper (Named.name definition)).Sublist keys := by
  induction keys with
  | nil => exact List.Sublist.refl []
  | cons key rest ih =>
    cases found : registry.get? key with
    | none =>
      rw [List.filterMap_cons_none found]
      exact ih.cons key
    | some definition =>
      rw [List.filterMap_cons_some found, List.map_cons, ← keyed.eq_of_get? found]
      exact ih.cons_cons key

namespace Workspace

/-- Routines that are looked up under names are found under the different forms that these have in
capitals, if each is held under its own name. -/
theorem routinesOf_eq {workspace : Workspace} (keyed : Registry.Keyed workspace.scanner.routines)
    (names : List Text) :
    workspace.routinesOf names =
      (names.map Text.upper).eraseDups.filterMap workspace.scanner.routines.get? := by
  have found : names.filterMap workspace.find? =
      (names.map Text.upper).filterMap workspace.scanner.routines.get? := by
    rw [List.filterMap_map]
    rfl
  rw [routinesOf, found]
  apply eraseDups_filterMap
  intro key other routine here there
  rw [keyed.eq_of_get? here, keyed.eq_of_get? there]

/-- **A line is answered with the routines that it refers to, each once.**  In a workspace that
comes about, the names are the place that control goes to, if there is one, and those behind opening
brackets in each operand, in order.  The answer has the routine of each form that these names have
in capitals, where there is one, in the order in which the forms are first met.  No two routines of
it have names that are the same in capitals. -/
theorem documentation_of_reachable {workspace : Workspace}
    (reachable : workspace.scanner.Reachable) {text : Text} {number : Int} {line : Line}
    (parsed : workspace.scanner.parseLine text number = .ok line) :
    ∃ references : List (List (Nat × Text)),
      List.Forall₂ References (line.operation.elim [] Operation.operands) references ∧
      let names := line.transferTarget?.toList ++ references.flatten.map Prod.snd
      let routines :=
        (names.map Text.upper).eraseDups.filterMap workspace.scanner.routines.get?
      workspace.documentation text number = .ok routines ∧
        (routines.map fun routine => Text.upper routine.name).Nodup := by
  have keyed := reachable.keyed
  obtain ⟨references, are, names⟩ :=
    exists_references_of_operands (line.operation.elim [] Operation.operands)
  refine ⟨references, are, ?_, ?_⟩
  · rw [documentation, parsed]
    show Except.ok (workspace.routinesOf (referredNames line)) = _
    rw [referredNames, names, routinesOf_eq keyed]
  · exact (nodup_eraseDups _).sublist (keyed.sublist _)

/-- Of three names that are written in four ways, two have routines. -/
theorem documentation_of_reachable_spellings :
    let document : List Text := ["; Where bytes are kept.".toList, "Buf:".toList,
      "; a = first".toList, "Add:".toList]
    let scanner := (Scan.lastProgress (({} : Scanner).scan {} document none none)).scanner
    let workspace : Workspace := { scanner }
    let text := " jp nz, [BUF + [buf]]+[_end], ADD ; back".toList
    workspace.scanner.Reachable ∧
      (workspace.documentation text 0).toOption.map (fun routines => routines.map Routine.name) =
        some ["Add".toList, "Buf".toList] ∧
      ∃ line, workspace.scanner.parseLine text 0 = .ok line ∧
      ∃ references : List (List (Nat × Text)),
        List.Forall₂ References (line.operation.elim [] Operation.operands) references ∧
        let names := line.transferTarget?.toList ++ references.flatten.map Prod.snd
        let routines :=
          (names.map Text.upper).eraseDups.filterMap workspace.scanner.routines.get?
        workspace.documentation text 0 = .ok routines ∧
          (routines.map fun routine => Text.upper routine.name).Nodup := by
  intro document scanner workspace text
  have reachable : workspace.scanner.Reachable := .scans (.begins rfl) {} document none none
  have answer : (workspace.documentation text 0).toOption.map (fun routines =>
      routines.map Routine.name) = some ["Add".toList, "Buf".toList] := by
    decide +kernel
  have read : (workspace.scanner.parseLine text 0).toOption.isSome = true := by decide +kernel
  cases parsed : workspace.scanner.parseLine text 0 with
  | error error =>
    rw [parsed] at read
    cases read
  | ok line => exact ⟨reachable, answer, line, rfl, documentation_of_reachable reachable parsed⟩

end Workspace

end Sm83Cost
