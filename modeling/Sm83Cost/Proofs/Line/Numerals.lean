import Sm83Cost.Opcode.Lookup
import Sm83Cost.Proofs.Line.Rendering
import Sm83Cost.Proofs.Traversal

/-!
# Lines with short numerals

A decimal numeral that is too long cannot be read, and nothing else on a line can
make it fail.  So a line in which no run of decimal digits is too long can be
taken apart (`exists_parse`), and its instruction can be looked up in any table
(`exists_lookup`).  What is looked at are operands, and each of them is a part of
the line (`isInfix_operand`).
-/

namespace Sm83Cost

set_option autoImplicit false

namespace Text

/-- No run of decimal digits is too long to be read. -/
def ShortNumerals (text : Text) : Prop :=
  ∀ run, run <:+: text → (∀ c ∈ run, isDecimal c = true) → run.length ≤ Numeral.decimalLimit

theorem ShortNumerals.part {text part : Text} (short : ShortNumerals text)
    (inside : part <:+: text) : ShortNumerals part :=
  fun run within => short run (within.trans inside)

theorem shortNumerals_of_length_le {text : Text} (few : text.length ≤ Numeral.decimalLimit) :
    ShortNumerals text :=
  fun _ inside _ => inside.length_le.trans few

theorem isInfix_trim (text : Text) : trim text <:+: text := by
  obtain ⟨lead, trail, -, -, whole⟩ := exists_trim text
  exact ⟨lead, trail, by rw [List.append_assoc, ← whole]⟩

end Text

open Text (ShortNumerals)

namespace Line

/-! ## Operands are parts of the line -/

theorem isInfix_splitOperands {text operand : Text} (member : operand ∈ splitOperands text) :
    operand <:+: text := by
  have single : ∀ text, Nesting.Passes Nesting.atComma {} text → ∀ operand ∈ splitOperands text,
      operand <:+: text := by
    intro text passes operand member
    rw [splitOperands_of_passes passes] at member
    split at member
    · cases member
    · exact List.mem_singleton.1 member ▸ Text.isInfix_trim text
  induction text using Nesting.pieces_induction with
  | last text passes => exact single text passes operand member
  | comma first rest passes closed ih =>
    rw [splitOperands_append_comma closed] at member
    rcases List.mem_append.1 member with here | there
    · exact (single first passes operand here).trans (List.prefix_append first _).isInfix
    · exact (ih there).trans ((List.suffix_cons ',' rest).trans (List.suffix_append first _)).isInfix

theorem isInfix_splitMnemonic (code : Text) : (splitMnemonic code).2 <:+: code := by
  have rest := Nesting.breakAt_append Nesting.atBlank {} (Text.trim code)
  exact ((Text.isInfix_trim _).trans (List.suffix_append _ _).isInfix).trans
    (rest ▸ Text.isInfix_trim code)

theorem isInfix_labelAndCode (code : Text) : (labelAndCode code).2 <:+: code := by
  rw [labelAndCode]
  split
  · rename_i label rest split
    obtain ⟨-, colons, -, rfl⟩ := splitLabel?_eq_some split
    exact (Text.isInfix_trim rest).trans
      ((List.suffix_append colons rest).trans (List.suffix_append label _)).isInfix
  · exact List.infix_refl code

theorem isInfix_codeOf (raw : Text) : codeOf raw <:+: raw :=
  (Text.isInfix_trim _).trans ⟨[], _, codePart_append raw⟩

theorem isInfix_operandText (raw : Text) :
    (splitMnemonic (labelAndCode (codeOf raw)).2).2 <:+: raw :=
  ((isInfix_splitMnemonic _).trans (isInfix_labelAndCode _)).trans (isInfix_codeOf raw)

/-- Each operand of a line is a part of it. -/
theorem isInfix_operand {isMacro : Text → Bool} {number : Int} {raw : Text} {line : Line}
    (parsed : parse isMacro number raw = .ok line) {operation : Operation}
    (holds : line.operation = some operation) {operand : Text}
    (member : operand ∈ operation.operands) : operand <:+: raw := by
  obtain ⟨read, given, rfl⟩ := parse_eq_ok.1 parsed
  cases holds
  obtain ⟨-, operands, -⟩ := operationOf_eq_some given
  rw [operands] at member
  exact (isInfix_splitOperands member).trans (isInfix_operandText raw)

end Line

/-! ## Short numerals can be read -/

/-- A digit of base ten is a decimal digit. -/
theorem isDecimal_of_isDigit {c : Char} (digit : Literal.isDigit 10 c = true) :
    Text.isDecimal c = true := by
  have value := (Bool.and_eq_true_iff.1 digit).2
  have small : ∀ n : Nat, ¬ n + 10 < 10 := fun n => by omega
  unfold Numeral.digit? at value
  dsimp only at value
  split at value
  · simp [small] at value
  · split at value
    · simp [small] at value
    · exact Option.isSome_of_isSome_filter _ _ value

/-- The size of reserved space can be read. -/
theorem exists_leading {text : Text} (short : ShortNumerals text) :
    ∃ value, Literal.leading text = .ok value := by
  unfold Literal.leading
  split
  · exact ⟨_, rfl⟩
  · refine ⟨_, if_neg (Nat.not_lt.2 ?_)⟩
    have digits := short ((Text.trim text).takeWhile (Literal.isDigit 10))
      ((List.takeWhile_prefix _).isInfix.trans (Text.isInfix_trim text))
      fun c member => isDecimal_of_isDigit (List.mem_takeWhile_imp member)
    exact (List.length_filterMap_le _ _).trans digits

/-- The bytes of data can be counted. -/
theorem exists_itemBytes_of_short (directive : Text) {items : List Text}
    (short : ∀ item ∈ items, ShortNumerals item) :
    ∃ bytes, Line.itemBytes directive items = .ok bytes := by
  by_cases reserves : directive = "DS"
  · cases items with
    | nil => exact ⟨0, rfl⟩
    | cons first rest =>
      obtain ⟨value, read⟩ := exists_leading (short first List.mem_cons_self)
      subst reserves
      exact ⟨value, read⟩
  · exact Line.exists_itemBytes reserves items

/-- A line with short numerals can be taken apart. -/
theorem exists_parse (isMacro : Text → Bool) (number : Int) {raw : Text}
    (short : ShortNumerals raw) : ∃ line, Line.parse isMacro number raw = .ok line := by
  have items : ∀ item ∈ Line.splitOperands
      (Line.splitMnemonic (Line.labelAndCode (Line.codeOf raw)).2).2, ShortNumerals item :=
    fun item member =>
      short.part ((Line.isInfix_splitOperands member).trans (Line.isInfix_operandText raw))
  obtain ⟨bytes, counted⟩ := exists_itemBytes_of_short
    (Text.upper (Line.splitMnemonic (Line.labelAndCode (Line.codeOf raw)).2).1) items
  obtain ⟨operation, read⟩ := Line.exists_operationOf_of_counted isMacro counted
  exact ⟨_, Line.parse_eq_ok.2 ⟨operation, read, rfl⟩⟩

theorem exists_form {operand : Text} (short : ShortNumerals operand) :
    ∃ form, Operand.form operand = .ok form := by
  have fits : Operand.overlong? (Text.trim operand) = none := by
    refine if_neg fun long => ?_
    rw [Bool.and_eq_true, List.all_eq_true, decide_eq_true_eq] at long
    have few := short _ (Text.isInfix_trim operand) long.1
    omega
  exact ⟨_, by rw [Operand.form, fits]⟩

/-- An instruction whose operands have short numerals can be looked up. -/
theorem exists_lookup (table : Opcode.Table) (mnemonic : Text) {operands : List Text}
    (short : ∀ operand ∈ operands, ShortNumerals operand) :
    ∃ entry, table.lookup mnemonic operands = .ok entry := by
  have forms : ∃ forms, operands.mapM Operand.form = .ok forms :=
    Traversal.exists_mapM_eq_ok fun operand member => exists_form (short operand member)
  obtain ⟨forms, formed⟩ := forms
  exact ⟨_, by rw [Opcode.Table.lookup, formed]; rfl⟩

/-! ## Hexadecimal numerals have no limit -/

/-- The greatest hexadecimal numeral with so many digits. -/
def greatestHex (count : Nat) : Text :=
  '$' :: List.replicate count 'F'

theorem forall_greatestHex {p : Char → Prop} (mark : p '$') (digit : p 'F') (count : Nat) :
    ∀ c ∈ greatestHex count, p c := by
  refine List.forall_mem_cons.2 ⟨mark, fun c member => ?_⟩
  exact List.eq_of_mem_replicate member ▸ digit

theorem ofDigits_replicate (count : Nat) :
    Numeral.ofDigits 16 (List.replicate count 15) = 16 ^ count - 1 := by
  induction count with
  | zero => rfl
  | succ count ih =>
    have step : Numeral.ofDigits 16 (List.replicate (count + 1) 15) =
        Numeral.ofDigits 16 (List.replicate count 15) * 16 + 15 := by
      rw [List.replicate_succ', Numeral.ofDigits, List.foldl_append]
      rfl
    have positive : 0 < 16 ^ count := Nat.pow_pos (by decide)
    rw [step, ih, Nat.pow_succ]
    omega

theorem isTrimmed_greatestHex (count : Nat) : Text.IsTrimmed (greatestHex count) :=
  Text.isTrimmed_of_forall (forall_greatestHex (by decide) (by decide) count)

theorem leading_greatestHex (count : Nat) :
    Literal.leading (greatestHex count) = .ok (16 ^ count - 1) := by
  have digits : Literal.leadingDigits 16 (List.replicate count 'F') = List.replicate count 15 := by
    have value : Numeral.digit? 16 'F' = some 15 := by decide
    rw [Literal.leadingDigits, List.takeWhile_eq_self_iff.2,
      List.filterMap_replicate_of_some value]
    intro c member
    rw [List.eq_of_mem_replicate member]
    decide
  rw [Literal.leading, Text.trim_of_isTrimmed (isTrimmed_greatestHex count)]
  show Except.ok (Numeral.ofDigits 16 (Literal.leadingDigits 16 (List.replicate count 'F'))) = _
  rw [digits, ofDigits_replicate]

namespace Line

open Nesting

/-- A line that reserves the greatest space that a hexadecimal numeral with so many digits can
name. -/
def reservation (count : Nat) : Text :=
  " DS ".toList ++ greatestHex count

theorem isTrimmed_reservation (count : Nat) :
    Text.IsTrimmed ("DS".toList ++ ' ' :: greatestHex count) :=
  Text.IsTrimmed.append ⟨by decide, by decide⟩ (by decide) (isTrimmed_greatestHex count)
    (List.cons_ne_nil _ _) [' ']

theorem cutComment_reservation (count : Nat) :
    cutComment (reservation count) = (reservation count, []) := by
  refine cutComment_of_passes (passes_of_uncommented fun c member => ?_)
  rcases List.mem_append.1 member with here | there
  · exact Text.forall_mem_of_all (p := (· ≠ ';')) (by decide) c here
  · exact forall_greatestHex (p := (· ≠ ';')) (by decide) (by decide) count c there

theorem isOperand_greatestHex (count : Nat) : IsOperand (greatestHex count) := by
  refine ⟨List.cons_ne_nil _ _, isTrimmed_greatestHex count, ?_⟩
  refine passes_of_passed fun c member inner => ?_
  have mark := forall_greatestHex (p := (· ≠ ',')) (by decide) (by decide) count c member
  rw [atComma, beq_eq_false_iff_ne.2 mark, Bool.and_false]

/-- So much space is reserved. -/
theorem parse_reservation (isMacro : Text → Bool) (number : Int) (count : Nat) :
    parse isMacro number (reservation count) =
      .ok { number, raw := reservation count,
            operation := some ⟨"DS", [greatestHex count], .data (16 ^ count - 1)⟩ } := by
  have leads : Leads "ds" "DS" (' ' :: greatestHex count) := ⟨by decide, rfl⟩
  have trimmed := isTrimmed_reservation count
  have comment : commentPart? (reservation count) = none := by
    rw [commentPart?, cutComment_reservation]
  have code : codeOf (reservation count) = "DS".toList ++ ' ' :: greatestHex count := by
    rw [codeOf, codePart, cutComment_reservation]
    exact (Text.trim_cons_of_isBlank (by decide) _).trans (Text.trim_of_isTrimmed trimmed)
  have split : splitMnemonic ("DS".toList ++ ' ' :: greatestHex count) =
      ("DS".toList, greatestHex count) := by
    rw [leads.splitMnemonic (by decide) trimmed, Text.trim_cons_of_isBlank (by decide),
      Text.trim_of_isTrimmed (isTrimmed_greatestHex count)]
  have role : roleOf isMacro "DS" [greatestHex count] = .ok (.data (16 ^ count - 1)) := by
    have bytes : itemBytes "DS" [greatestHex count] = .ok (16 ^ count - 1) :=
      leading_greatestHex count
    rw [roleOf, if_pos (by decide), bytes]
    rfl
  have operation : operationOf isMacro ("DS".toList ++ ' ' :: greatestHex count) =
      .ok (some ⟨"DS", [greatestHex count], .data (16 ^ count - 1)⟩) := by
    have capital : Text.upper "DS".toList = "DS".toList := by decide
    rw [operationOf, split]
    simp only [capital, (isOperand_greatestHex count).splitOperands_eq, role]
    rfl
  rw [parse_eq, code, leads.labelAndCode (by decide) (by decide), operation, comment]
  rfl

end Line

end Sm83Cost
