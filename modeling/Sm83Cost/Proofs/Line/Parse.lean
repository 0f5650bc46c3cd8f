import Mathlib.Tactic.SplitIfs
import Sm83Cost.Fault
import Sm83Cost.Line.Basic

/-!
# What a line is taken apart into

Taking a line apart cuts off its comment and its label and looks at what is left.
`parse_eq_ok` says what a line consists of that was taken apart, and
`operationOf_eq_some` what its operation consists of.  A line can fail to be taken
apart only where it reserves space (`exists_operationOf`).
-/

namespace Sm83Cost.Line

set_option autoImplicit false

/-! ## Labels -/

/-- Only colons are dropped. -/
theorem dropColons_of_ne {c : Char} (other : c ≠ ':') (count : Nat) (rest : Text) :
    dropColons count (c :: rest) = c :: rest := by
  unfold dropColons
  split
  · rename_i same
    cases same
    exact absurd rfl other
  · rfl

/-- A label that does not begin with a point is a word before a colon. -/
theorem splitLabel?_of_ne {c : Char} (global : c ≠ '.') (rest : Text) :
    splitLabel? (c :: rest) =
      match (c :: rest).takeWhile Text.isWord, (c :: rest).dropWhile Text.isWord with
      | [], _ => none
      | name, ':' :: more => some (name, dropColons 1 more)
      | _, _ => none := by
  unfold splitLabel?
  split
  · rename_i same
    cases same
    exact absurd rfl global
  · rfl

/-! ## Lines and operations -/

/-- A line that was taken apart has the number and the text that it came with, the label and the
comment that are cut off, and the operation of the code between them. -/
theorem parse_eq_ok {isMacro : Text → Bool} {number : Int} {raw : Text} {line : Line} :
    parse isMacro number raw = .ok line ↔
      ∃ operation,
        operationOf isMacro (labelAndCode (Text.trim (codePart raw))).2 = .ok operation ∧
        line = { number, raw, label := (labelAndCode (Text.trim (codePart raw))).1, operation,
                 comment := commentPart? raw } := by
  rw [parse, Fault.bind_eq_ok]
  refine exists_congr fun operation => and_congr_right fun _ => ?_
  exact ⟨fun made => (Except.ok.inj made).symm, fun made => made ▸ rfl⟩

theorem number_of_parse {isMacro : Text → Bool} {number : Int} {raw : Text} {line : Line}
    (parsed : parse isMacro number raw = .ok line) : line.number = number := by
  obtain ⟨operation, -, rfl⟩ := parse_eq_ok.1 parsed
  rfl

/-- An operation has the mnemonic in capitals, the operands, and the role that these two give. -/
theorem operationOf_eq_some {isMacro : Text → Bool} {code : Text} {operation : Operation}
    (read : operationOf isMacro code = .ok (some operation)) :
    operation.mnemonic = Text.upper (splitMnemonic code).1 ∧
      operation.operands = splitOperands (splitMnemonic code).2 ∧
      roleOf isMacro operation.mnemonic operation.operands = .ok operation.role := by
  rw [operationOf] at read
  split at read
  · cases read
  · obtain ⟨role, given, made⟩ := Fault.bind_eq_ok.1 read
    cases made
    exact ⟨rfl, rfl, given⟩

/-- Only code that is empty has no operation. -/
theorem eq_nil_of_operationOf {isMacro : Text → Bool} {code : Text}
    (read : operationOf isMacro code = .ok none) : code = [] := by
  rw [operationOf] at read
  split at read
  · rename_i empty
    exact List.isEmpty_iff.1 empty
  · obtain ⟨role, -, made⟩ := Fault.bind_eq_ok.1 read
    cases made

/-- Only the size of reserved space can fail to be read. -/
theorem exists_itemBytes {directive : Text} (other : directive ≠ "DS") (items : List Text) :
    ∃ bytes, itemBytes directive items = .ok bytes := by
  unfold itemBytes
  split
  · exact ⟨_, rfl⟩
  · split_ifs <;> exact ⟨_, rfl⟩

/-- An operation can be read if the bytes that it would put down as data can be counted. -/
theorem exists_operationOf_of_counted (isMacro : Text → Bool) {code : Text} {bytes : Nat}
    (counted : itemBytes (Text.upper (splitMnemonic code).1) (splitOperands (splitMnemonic code).2) =
      .ok bytes) :
    ∃ operation, operationOf isMacro code = .ok operation := by
  rw [operationOf]
  split
  · exact ⟨none, rfl⟩
  · have role : ∃ role, roleOf isMacro (Text.upper (splitMnemonic code).1)
        (splitOperands (splitMnemonic code).2) = .ok role := by
      unfold roleOf
      rw [counted]
      split_ifs
      · exact ⟨_, rfl⟩
      · exact ⟨_, rfl⟩
      · exact ⟨_, rfl⟩
      · split <;> exact ⟨_, rfl⟩
    obtain ⟨role, given⟩ := role
    simp only [given]
    exact ⟨_, rfl⟩

/-- An operation that reserves no space can be read. -/
theorem exists_operationOf (isMacro : Text → Bool) {code : Text}
    (other : Text.upper (splitMnemonic code).1 ≠ "DS") :
    ∃ operation, operationOf isMacro code = .ok operation := by
  obtain ⟨bytes, counted⟩ := exists_itemBytes other (splitOperands (splitMnemonic code).2)
  exact exists_operationOf_of_counted isMacro counted

/-- Only names of macros are taken for macros. -/
theorem isMacro_of_roleOf {isMacro : Text → Bool} {mnemonic : Text} {operands : List Text}
    (given : roleOf isMacro mnemonic operands = .ok .macroCall) : isMacro mnemonic = true := by
  rw [roleOf] at given
  split at given
  · obtain ⟨bytes, -, made⟩ := Fault.bind_eq_ok.1 given
    cases made
  · split at given
    · cases given
    · split at given
      · assumption
      · split at given <;> cases given

theorem isMacro_of_parse {isMacro : Text → Bool} {number : Int} {raw : Text} {line : Line}
    (parsed : parse isMacro number raw = .ok line) {operation : Operation}
    (holds : line.operation = some operation) (calls : operation.role = .macroCall) :
    isMacro operation.mnemonic = true := by
  obtain ⟨read, given, rfl⟩ := parse_eq_ok.1 parsed
  cases holds
  obtain ⟨-, -, role⟩ := operationOf_eq_some given
  rw [calls] at role
  exact isMacro_of_roleOf role

end Sm83Cost.Line
