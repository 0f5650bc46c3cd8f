import Sm83Cost.Proofs.Scan.Code

/-!
# The blocks of a document

A macro is a block of lines: a header, a body, and the next line that ends a macro.
Not every header begins a block, since the body of a macro may hold headers of its
own.  One begins a block where every block that begins above it has ended above it
(`BeginsAt`), and this refers to nothing but the lines themselves.

At any place at most one block is open (`OpenAt.unique`), and different blocks have
no line in common (`IsBlock.apart`).  One more line closes the open block, or leaves
it open, or begins one where none is open (`openAt_concat`, `isBlock_concat`).
-/

namespace Sm83Cost.Scan

set_option autoImplicit false

variable {lines : List Text} {text name other : Text} {number start start' stop stop' : Nat}

/-! ## Headers and ends -/

/-- The line with this number has the property. -/
def LineAt (property : Text → Prop) (lines : List Text) (number : Nat) : Prop :=
  ∃ text, lines[number]? = some text ∧ property text

/-- The line with this number is the header of a macro, in either style. -/
def HeaderAt (lines : List Text) (number : Nat) (name : Text) : Prop :=
  LineAt (fun text => header? (Text.trim text) = some name) lines number

/-- The line with this number ends a macro. -/
def EndsAt (lines : List Text) (number : Nat) : Prop :=
  LineAt (fun text => isMacroEnd (Text.trim text) = true) lines number

theorem lineAt_concat {property : Text → Prop} :
    LineAt property (lines ++ [text]) number ↔
      LineAt property lines number ∨ number = lines.length ∧ property text := by
  unfold LineAt
  rcases Nat.lt_trichotomy number lines.length with above | rfl | below
  · rw [List.getElem?_append_left above, or_iff_left fun last => absurd last.1 (Nat.ne_of_lt above)]
  · simp
  · have beyond : (lines ++ [text])[number]? = none := by
      rw [List.getElem?_eq_none_iff, List.length_append, List.length_singleton]
      exact below
    rw [beyond, List.getElem?_eq_none (Nat.le_of_lt below)]
    simp [Nat.ne_of_gt below]

theorem LineAt.lt_length {property : Text → Prop} (holds : LineAt property lines number) :
    number < lines.length := by
  obtain ⟨text, found, -⟩ := holds
  exact (List.getElem?_eq_some_iff.1 found).1

/-- A header has one name. -/
theorem HeaderAt.unique (header : HeaderAt lines number name)
    (header' : HeaderAt lines number other) : name = other := by
  obtain ⟨text, found, named⟩ := header
  obtain ⟨text', found', named'⟩ := header'
  obtain rfl := Option.some.inj (found.symm.trans found')
  exact Option.some.inj (named.symm.trans named')

theorem headerAt_concat :
    HeaderAt (lines ++ [text]) number name ↔
      HeaderAt lines number name ∨
        number = lines.length ∧ header? (Text.trim text) = some name :=
  lineAt_concat

theorem endsAt_concat :
    EndsAt (lines ++ [text]) number ↔
      EndsAt lines number ∨ number = lines.length ∧ isMacroEnd (Text.trim text) = true :=
  lineAt_concat

/-! ## Where blocks begin -/

/-- A block begins at the line: it is a header, and each block that begins above it has ended above
it. -/
def BeginsAt (lines : List Text) (number : Nat) : Prop :=
  (∃ name, HeaderAt lines number name) ∧
    ∀ start, (_above : start < number) → BeginsAt lines start →
      ∃ stop, start < stop ∧ stop < number ∧ EndsAt lines stop
termination_by number

theorem BeginsAt.header (begins : BeginsAt lines number) : ∃ name, HeaderAt lines number name := by
  rw [BeginsAt] at begins
  exact begins.1

theorem BeginsAt.ended (begins : BeginsAt lines number) (above : start < number)
    (earlier : BeginsAt lines start) :
    ∃ stop, start < stop ∧ stop < number ∧ EndsAt lines stop := by
  rw [BeginsAt] at begins
  exact begins.2 start above earlier

/-- Whether a block begins at a line depends on this line and those above it alone. -/
theorem beginsAt_concat_iff (above : number < lines.length) :
    BeginsAt (lines ++ [text]) number ↔ BeginsAt lines number := by
  induction number using Nat.strong_induction_on with
  | _ number ih =>
    have header : ∀ name, HeaderAt (lines ++ [text]) number name ↔ HeaderAt lines number name := by
      intro name
      rw [headerAt_concat, or_iff_left fun last => absurd last.1 (Nat.ne_of_lt above)]
    have ends : ∀ stop < number, (EndsAt (lines ++ [text]) stop ↔ EndsAt lines stop) := by
      intro stop before
      rw [endsAt_concat, or_iff_left fun last => absurd last.1 (by omega)]
    rw [BeginsAt, BeginsAt, exists_congr header]
    refine and_congr_right fun _ => forall_congr' fun start => forall_congr' fun before => ?_
    rw [ih start before (by omega)]
    refine imp_congr_right fun _ => exists_congr fun stop => and_congr_right fun _ => ?_
    exact and_congr_right fun earlier => ends stop earlier

/-! ## Open blocks and closed ones -/

/-- A block is open behind the lines: it begins at one of them, and no line since ends a macro. -/
structure OpenAt (lines : List Text) (name : Text) (start : Nat) : Prop where
  header : HeaderAt lines start name
  begins : BeginsAt lines start
  goesOn : ∀ stop, start < stop → ¬ EndsAt lines stop

/-- The lines from `start` to `stop` are a block: it begins there, and goes on to the next line that
ends a macro. -/
structure IsBlock (lines : List Text) (name : Text) (start stop : Nat) : Prop where
  header : HeaderAt lines start name
  begins : BeginsAt lines start
  below : start < stop
  ends : EndsAt lines stop
  first : ∀ between, start < between → between < stop → ¬ EndsAt lines between

/-- At most one block is open. -/
theorem OpenAt.unique (block : OpenAt lines name start) (block' : OpenAt lines other start') :
    name = other ∧ start = start' := by
  rcases Nat.lt_trichotomy start start' with above | rfl | below
  · obtain ⟨stop, since, -, ends⟩ := block'.begins.ended above block.begins
    exact absurd ends (block.goesOn stop since)
  · exact ⟨block.header.unique block'.header, rfl⟩
  · obtain ⟨stop, since, -, ends⟩ := block.begins.ended below block'.begins
    exact absurd ends (block'.goesOn stop since)

/-- **Different blocks have no line in common.** -/
theorem IsBlock.apart (block : IsBlock lines name start stop)
    (block' : IsBlock lines other start' stop') :
    (name = other ∧ start = start' ∧ stop = stop') ∨ stop < start' ∨ stop' < start := by
  have above : ∀ {name other : Text} {start stop start' stop' : Nat},
      IsBlock lines name start stop → IsBlock lines other start' stop' → start < start' →
        stop < start' := by
    intro name other start stop start' stop' block block' above
    obtain ⟨between, since, before, ends⟩ := block'.begins.ended above block.begins
    by_contra late
    exact block.first between since (by omega) ends
  rcases Nat.lt_trichotomy start start' with before | rfl | after
  · exact .inr (.inl (above block block' before))
  · rcases Nat.lt_trichotomy stop stop' with sooner | rfl | later
    · exact absurd block.ends (block'.first stop block.below sooner)
    · exact .inl ⟨block.header.unique block'.header, rfl, rfl⟩
    · exact absurd block'.ends (block.first stop' block'.below later)
  · exact .inr (.inr (above block' block after))

/-! ## One more line -/

/-- Behind one more line a block is open if it was before and the line does not end it, or if none
was and the line is its header. -/
theorem openAt_concat :
    OpenAt (lines ++ [text]) name start ↔
      OpenAt lines name start ∧ isMacroEnd (Text.trim text) = false ∨
        (∀ other start', ¬ OpenAt lines other start') ∧ start = lines.length ∧
          header? (Text.trim text) = some name := by
  constructor
  · intro block
    rcases headerAt_concat.1 block.header with header | ⟨rfl, named⟩
    · have above := header.lt_length
      refine .inl ⟨⟨header, (beginsAt_concat_iff above).1 block.begins, ?_⟩, ?_⟩
      · exact fun stop since ends => block.goesOn stop since (endsAt_concat.2 (.inl ends))
      · rw [Bool.eq_false_iff]
        exact fun ends => block.goesOn _ above (endsAt_concat.2 (.inr ⟨rfl, ends⟩))
    · refine .inr ⟨fun other start' block' => ?_, rfl, named⟩
      have above := block'.header.lt_length
      obtain ⟨stop, since, before, ends⟩ :=
        block.begins.ended above ((beginsAt_concat_iff above).2 block'.begins)
      rcases endsAt_concat.1 ends with ends | ⟨rfl, -⟩
      · exact block'.goesOn stop since ends
      · exact Nat.lt_irrefl _ before
  · rintro (⟨block, goesOn⟩ | ⟨none, rfl, named⟩)
    · have above := block.header.lt_length
      refine ⟨headerAt_concat.2 (.inl block.header), (beginsAt_concat_iff above).2 block.begins, ?_⟩
      intro stop since ends
      rcases endsAt_concat.1 ends with ends | ⟨-, ends⟩
      · exact block.goesOn stop since ends
      · rw [goesOn] at ends
        cases ends
    · have header : HeaderAt (lines ++ [text]) lines.length name :=
        headerAt_concat.2 (.inr ⟨rfl, named⟩)
      refine ⟨header, ?_, ?_⟩
      · rw [BeginsAt]
        refine ⟨⟨name, header⟩, fun start above begins => ?_⟩
        rw [beginsAt_concat_iff above] at begins
        by_contra endless
        obtain ⟨other, header'⟩ := begins.header
        refine none other start ⟨header', begins, fun stop since ends => endless ?_⟩
        exact ⟨stop, since, ends.lt_length, endsAt_concat.2 (.inl ends)⟩
      · intro stop since ends
        have before := ends.lt_length
        rw [List.length_append, List.length_singleton] at before
        omega

/-- One more line closes the block that is open, if it ends a macro. -/
theorem isBlock_concat :
    IsBlock (lines ++ [text]) name start stop ↔
      IsBlock lines name start stop ∨
        OpenAt lines name start ∧ stop = lines.length ∧ isMacroEnd (Text.trim text) = true := by
  constructor
  · intro block
    have above : start < lines.length := by
      have last := block.ends.lt_length
      have below := block.below
      rw [List.length_append, List.length_singleton] at last
      omega
    have header : HeaderAt lines start name := (headerAt_concat.1 block.header).resolve_right
      fun last => absurd last.1 (Nat.ne_of_lt above)
    have begins := (beginsAt_concat_iff above).1 block.begins
    have first : ∀ between, start < between → between < stop → ¬ EndsAt lines between :=
      fun between since before ends =>
        block.first between since before (endsAt_concat.2 (.inl ends))
    rcases endsAt_concat.1 block.ends with ends | ⟨rfl, ends⟩
    · exact .inl ⟨header, begins, block.below, ends, first⟩
    · refine .inr ⟨⟨header, begins, fun stop since ends => ?_⟩, rfl, ends⟩
      exact first stop since ends.lt_length ends
  · rintro (block | ⟨block, rfl, ends⟩)
    · have above := block.header.lt_length
      refine ⟨headerAt_concat.2 (.inl block.header), (beginsAt_concat_iff above).2 block.begins,
        block.below, endsAt_concat.2 (.inl block.ends), fun between since before ends => ?_⟩
      rcases endsAt_concat.1 ends with ends | ⟨rfl, -⟩
      · exact block.first between since before ends
      · exact absurd block.ends.lt_length (Nat.not_lt.2 (Nat.le_of_lt before))
    · have above := block.header.lt_length
      refine ⟨headerAt_concat.2 (.inl block.header), (beginsAt_concat_iff above).2 block.begins,
        above, endsAt_concat.2 (.inr ⟨rfl, ends⟩), fun between since before ends => ?_⟩
      rcases endsAt_concat.1 ends with ends | ⟨rfl, -⟩
      · exact block.goesOn between since ends
      · exact Nat.lt_irrefl _ before

end Sm83Cost.Scan
