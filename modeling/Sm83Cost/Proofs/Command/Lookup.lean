import Sm83Cost.Command.Run
import Sm83Cost.Proofs.Cost.Completion
import Sm83Cost.Proofs.Opcode.Resolution

/-!
# Looking up what a session looks up

An instruction is described by the command `lookup`, and a session finds its entry
on the way to the cost of a line.  The two do not ask for the same lines: the
command looks up every operation, a session only those that it takes for
instructions, and for it directives come first and the calls that switch banks
before the rest.

They agree all the same (`lookup_agrees_with_session`), since no other operation is
in the table of the processor.  What is found has the mnemonic of the line and as
many operands, and no such mnemonic is that of a directive or of a call
(`roleOf_of_answers`).  The exception is `SET`, and that is in the table with two
operands only, just where it is no directive.
-/

namespace Sm83Cost

set_option autoImplicit false

open Text (ShortNumerals)
open Line.Nesting

namespace Opcode

/-- What is found for an operation of a line is an entry for it. -/
theorem answers_of_operationOf {isMacro : Text → Bool} {code : Text} {operation : Operation}
    {entry : Entry} (read : Line.operationOf isMacro code = .ok (some operation))
    (found : Table.standard.lookup operation.mnemonic operation.operands = .ok (some entry)) :
    entry.Answers operation.mnemonic operation.operands.length := by
  obtain ⟨mnemonic, operands, -⟩ := Line.operationOf_eq_some read
  have passes := (retraces_upper atBlank_of_not_mem_separators _).passes proper_start
    (Line.passes_splitMnemonic code)
  have are := (Line.operandList_splitOperands (Line.splitMnemonic code).2).isOperand
  rw [← mnemonic] at passes
  rw [← operands] at are
  exact answers_of_lookup mnemonic passes are found

/-- The mnemonic of an entry is not that of data or of a call that switches banks, and that of a
directive only if it is `SET` with two operands. -/
theorem instruction_of_held {entry : Entry} (member : entry ∈ Table.standard.held) :
    Line.dataDirectives.contains entry.mnemonic = false ∧
      Line.predefKeywords.lookup entry.mnemonic = none ∧
      (Line.otherDirectives.contains entry.mnemonic = true →
        entry.mnemonic = "SET" ∧ entry.operands.length = 2) := by
  have each : ∀ entry ∈ Table.standard.held,
      Line.dataDirectives.contains entry.mnemonic = false ∧
        Line.predefKeywords.lookup entry.mnemonic = none ∧
        (Line.otherDirectives.contains entry.mnemonic = true →
          entry.mnemonic = "SET" ∧ entry.operands.length = 2) := by
    decide +kernel
  exact each entry member

/-- An operation that has an entry is taken for an instruction, unless it is a macro. -/
theorem roleOf_of_answers {entry : Entry} (member : entry ∈ Table.standard.held)
    {isMacro : Text → Bool} {mnemonic : Text} {operands : List Text}
    (answers : entry.Answers mnemonic operands.length) (unnamed : isMacro mnemonic = false) :
    Line.roleOf isMacro mnemonic operands = .ok .instruction := by
  have plain : Line.dataDirectives.contains mnemonic = false ∧
      Line.predefKeywords.lookup mnemonic = none ∧
      Line.isOtherDirective mnemonic operands = false := by
    rcases answers.mnemonic_eq with rfl | ⟨rfl, -, -⟩
    · obtain ⟨data, predef, directive⟩ := instruction_of_held member
      refine ⟨data, predef, ?_⟩
      by_contra other
      rw [Bool.not_eq_false, Line.isOtherDirective, Bool.and_eq_true] at other
      obtain ⟨set, two⟩ := directive other.1
      rw [answers.operands_length] at two
      simp [set, two] at other
    · have none : Line.otherDirectives.contains "LDH".toList = false := by decide
      exact ⟨by decide, by decide, by rw [Line.isOtherDirective, none, Bool.false_and]⟩
  obtain ⟨data, predef, directive⟩ := plain
  rw [Line.roleOf, data, directive, unnamed, predef]
  rfl

end Opcode

namespace Session

/-- The entry of a line is the one that is looked up for an instruction; nothing else has one. -/
theorem opcode_of_costOf {session : Session} {line : Line} {operation : Operation}
    {cost : LineCost} (resolved : session.costOf line operation = .ok cost) :
    (operation.role = .instruction →
        session.table.lookup operation.mnemonic operation.operands = .ok cost.opcode) ∧
      (operation.role ≠ .instruction → cost.opcode = none) := by
  by_cases plain : operation.role = .instruction
  · simp only [costOf, plain] at resolved
    obtain ⟨found, looked, made⟩ := Fault.bind_eq_ok.1 resolved
    refine ⟨fun _ => ?_, absurd plain⟩
    rw [Fault.ofNumeral_eq_ok.1 looked]
    cases found with
    | none =>
      cases made
      rfl
    | some entry =>
      obtain ⟨cycles, -, made⟩ := Fault.bind_eq_ok.1 made
      cases made
      rfl
  · refine ⟨fun same => absurd same plain, fun _ => ?_⟩
    cases call : operation.role with
    | instruction => exact absurd call plain
    | data bytes =>
      simp only [costOf, call] at resolved
      cases resolved
      rfl
    | directive =>
      simp only [costOf, call] at resolved
      cases resolved
      rfl
    | predef kind =>
      simp only [costOf, call] at resolved
      cases resolved
      rfl
    | macroCall =>
      simp only [costOf, call] at resolved
      split at resolved
      · cases resolved
        rfl
      · obtain ⟨cycles, -, made⟩ := Fault.bind_eq_ok.1 resolved
        cases made
        rfl

end Session

namespace Command

/-! ## The report -/

section Report

variable {written : Text} {line : Line} (verbose : Bool)

theorem lookup_of_some {entry : Opcode.Entry} (found : entryFor written = .ok (line, some entry)) :
    lookup verbose written = success [entry.describe] := by
  rw [lookup, found]

theorem lookup_of_none (found : entryFor written = .ok (line, none)) :
    (lookup verbose written).code = 1 ∧ (lookup verbose written).output = [] := by
  rw [lookup, found]
  exact ⟨rfl, rfl⟩

end Report

/-! ## The entry -/

/-- Without macros the table has an entry for an operation exactly if a session finds it. -/
theorem lookup_eq_opcode {session : Session} (table : session.table = .standard) {code : Text}
    {line : Line} {operation : Operation} {cost : LineCost}
    (read : Line.operationOf (fun _ => false) code = .ok (some operation))
    (short : ∀ operand ∈ operation.operands, ShortNumerals operand)
    (resolved : session.costOf line operation = .ok cost) :
    Opcode.Table.standard.lookup operation.mnemonic operation.operands = .ok cost.opcode := by
  obtain ⟨instruction, other⟩ := Session.opcode_of_costOf resolved
  by_cases plain : operation.role = .instruction
  · rw [← table]
    exact instruction plain
  · obtain ⟨found, looked⟩ := exists_lookup Opcode.Table.standard operation.mnemonic short
    cases found with
    | none => rw [looked, other plain]
    | some entry =>
      have role : Line.roleOf (fun _ => false) operation.mnemonic operation.operands =
          .ok .instruction :=
        Opcode.roleOf_of_answers (Opcode.Table.mem_held_of_lookup looked)
          (Opcode.answers_of_operationOf read looked) rfl
      obtain ⟨-, -, given⟩ := Line.operationOf_eq_some read
      exact absurd (Except.ok.inj (given.symm.trans role)) plain

/-- The command looks up the operation of the text, if there is one. -/
theorem entryFor_of_parse {written : Text} {line : Line} {found : Option Opcode.Entry}
    (parsed : Line.parse (fun _ => false) 0 written = .ok line)
    (idle : line.operation = none → found = none)
    (looked : ∀ operation, line.operation = some operation →
      Opcode.Table.standard.lookup operation.mnemonic operation.operands = .ok found) :
    entryFor written = .ok (line, found) := by
  simp only [entryFor, parsed, bind, Except.bind]
  cases holds : line.operation with
  | none =>
    rw [idle holds]
    rfl
  | some operation =>
    simp only [looked operation holds]
    rfl

/-- The command finds the entry that a new session finds. -/
theorem entryFor_of_lineCost {written : Text} (short : ShortNumerals written) {config : Config}
    {number : Int} {cost : LineCost}
    (resolved : Session.lineCost { config } written number = .ok cost) :
    ∃ line, entryFor written = .ok (line, cost.opcode) := by
  obtain ⟨line, parsed, resolved⟩ := Fault.bind_eq_ok.1 resolved
  have taken : Line.parse (fun _ => false) number written = .ok line :=
    Fault.ofNumeral_eq_ok.1 parsed
  obtain ⟨operation, read, rfl⟩ := Line.parse_eq_ok.1 taken
  have again : Line.parse (fun _ => false) 0 written =
      .ok { number := 0, raw := written, label := _, operation, comment := _ } :=
    Line.parse_eq_ok.2 ⟨operation, read, rfl⟩
  refine ⟨_, entryFor_of_parse again ?_ ?_⟩
  · rintro rfl
    obtain rfl := Except.ok.inj resolved
    rfl
  · rintro operation rfl
    exact lookup_eq_opcode rfl read
      (fun operand member => short.part (Line.isInfix_operand taken rfl member)) resolved

/-- **The command describes the entry that a session finds.**  In a new session with the table of
the processor, under any configuration, a text with short numerals has a cost; if it has an entry,
the command shows it, and otherwise the command shows nothing and answers with the code one. -/
theorem lookup_agrees_with_session {written : Text} (short : ShortNumerals written)
    (config : Config) (number : Int) (verbose : Bool) :
    ∃ cost, Session.lineCost { config } written number = .ok cost ∧
      (entryFor written).map Prod.snd = .ok cost.opcode ∧
      (∀ entry, cost.opcode = some entry →
        lookup verbose written = success [entry.describe]) ∧
      (cost.opcode = none →
        (lookup verbose written).code = 1 ∧ (lookup verbose written).output = []) := by
  have sound : Session.Sound { config } := ⟨rfl, rfl, Scan.everyMacro_empty _ {}⟩
  obtain ⟨cost, resolved⟩ := sound.exists_lineCost short number
  obtain ⟨line, found⟩ := entryFor_of_lineCost short resolved
  refine ⟨cost, resolved, by rw [found]; rfl, ?_, ?_⟩
  · intro entry some
    rw [some] at found
    exact lookup_of_some verbose found
  · intro none
    rw [none] at found
    exact lookup_of_none verbose found

/-- `SET` is an instruction for both with two operands.  With one operand it is a directive for the
session, and the command does not find it. -/
theorem lookup_agrees_with_session_set :
    (∃ cost, Session.lineCost {} " set 3, a" 0 = .ok cost ∧
      cost.opcode = some (Opcode.bitOperation (2, "SET") 3 (7, "A")) ∧
      lookup false " set 3, a" =
        success [(Opcode.bitOperation (2, "SET") 3 (7, "A")).describe]) ∧
    ∃ cost, Session.lineCost {} " set 3" 0 = .ok cost ∧ cost.opcode = none ∧
      (lookup false " set 3").code = 1 := by
  have few : ∀ written ∈ [" set 3, a".toList, " set 3".toList], ShortNumerals written := by
    intro written member
    have each : ∀ written ∈ [" set 3, a".toList, " set 3".toList], written.length ≤ 9 := by decide
    refine Text.shortNumerals_of_length_le ((each written member).trans ?_)
    decide
  constructor
  · have listed : (entryFor " set 3, a").map Prod.snd =
        .ok (some (Opcode.bitOperation (2, "SET") 3 (7, "A"))) := by
      decide +kernel
    obtain ⟨cost, resolved, same, shows, -⟩ :=
      lookup_agrees_with_session (few " set 3, a" (by decide)) {} 0 false
    have found := Except.ok.inj (same.symm.trans listed)
    exact ⟨cost, resolved, found, shows _ found⟩
  · have unlisted : (entryFor " set 3").map Prod.snd = .ok none := by decide +kernel
    obtain ⟨cost, resolved, same, -, refuses⟩ :=
      lookup_agrees_with_session (few " set 3" (by decide)) {} 0 false
    have none := Except.ok.inj (same.symm.trans unlisted)
    exact ⟨cost, resolved, none, (refuses none).1⟩

end Command

end Sm83Cost
