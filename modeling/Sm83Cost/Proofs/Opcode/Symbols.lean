import Mathlib.Tactic.MkIffOfInductiveProp
import Sm83Cost.Proofs.Line.Numerals
import Sm83Cost.Proofs.Opcode.Caseless
import Sm83Cost.Proofs.Opcode.Resolution

/-!
# Instructions on symbols

A symbol is an ASCII name that is no register, no condition and no step of `HL`
(`IsSymbol`).  It may look like a numeral, like a function of the assembler or like
an operand of the table.

All the same its form depends on nothing but how it is used: by itself it is a value
of two bytes, behind a point a relative target, and in brackets an address.  From
there on an instruction is found by forms alone (`find?_of_ordinary`), so that its
entry is the same for all symbols (`resolves_symbol`).
-/

namespace Sm83Cost

set_option autoImplicit false

open Text (asciiUpper)

namespace Operand

/-! ## Texts that have one spelling already -/

theorem replaceAny_of_missed {spellings : List Text} (new : Text) {text : Text}
    (missed : ∀ spelling ∈ spellings, ¬ spelling <:+: text) :
    Text.replaceAny spellings new text = text := by
  induction text with
  | nil => rfl
  | cons c rest ih =>
    have nowhere : spellings.find? (·.isPrefixOf (c :: rest)) = none := by
      rw [List.find?_eq_none]
      intro spelling member leads
      exact missed spelling member (List.isPrefixOf_iff_prefix.1 leads).isInfix
    have behind := ih fun spelling member inside =>
      missed spelling member (inside.trans (List.suffix_cons c rest).isInfix)
    rw [Text.replaceAny, Text.replaceMatches] at behind ⊢
    rw [Text.replaceFrom, nowhere]
    exact congrArg (c :: ·) behind

theorem bracketed_of_not_mem {text : Text} (plain : '(' ∉ text) : bracketed false text = text := by
  induction text with
  | nil => rfl
  | cons c rest ih =>
    rw [List.mem_cons, not_or] at plain
    rw [bracketed, ih plain.2, if_neg]
    rw [Bool.and_eq_true, decide_eq_true_eq]
    exact fun opens => plain.1 opens.1.symm

/-- Nothing is to be done without parentheses and steps of `HL`. -/
theorem unified_eq_self {text : Text} (plain : '(' ∉ text)
    (still : ∀ spelling ∈ (["[HLI]", "[HLD]"] : List Text), ¬ spelling <:+: text) :
    unified text = text := by
  have keeps : ∀ (spellings : List Text) (new : Text),
      (∀ spelling ∈ spellings,
        '(' ∈ spelling ∨ spelling ∈ (["[HLI]", "[HLD]"] : List Text)) →
      Text.replaceAny spellings new text = text := by
    intro spellings new each
    refine replaceAny_of_missed new fun spelling member inside => ?_
    rcases each spelling member with opens | steps
    · exact plain (inside.subset opens)
    · exact still spelling steps inside
  rw [unified, keeps _ _ (by decide), keeps _ _ (by decide)]
  exact bracketed_of_not_mem plain

/-- What is in capitals without blanks and without other spellings stays as it is. -/
theorem memoryForm_eq_self {text : Text} (capitals : Text.upper text = text)
    (full : ∀ c ∈ text, Text.isBlank c = false) (one : unified text = text) :
    memoryForm text = text := by
  rw [memoryForm, capitals, List.filter_eq_self.2, one]
  intro c member
  rw [full c member]
  rfl

theorem memoryForm_of_closed {text : Text} (capitals : Text.upper text = text)
    (full : ∀ c ∈ text, Text.isBlank c = false) (plain : '(' ∉ text) (closed : '[' ∉ text) :
    memoryForm text = text := by
  refine memoryForm_eq_self capitals full (unified_eq_self plain fun spelling member inside => ?_)
  have each : ∀ spelling ∈ (["[HLI]", "[HLD]"] : List Text), '[' ∈ spelling := by decide
  exact closed (inside.subset (each spelling member))

theorem isByteFunction_of_not_mem {text : Text} (plain : '(' ∉ text) :
    isByteFunction text = false := by
  rw [isByteFunction, List.any_eq_false]
  intro name _ called
  split at called
  · next rest after =>
    have whole : name ++ rest = text := List.isPrefixOf?_eq_some_iff_append_eq.1 after
    have opens := List.mem_of_mem_head? (beq_iff_eq.1 called)
    exact plain (whole ▸ List.mem_append_right name ((List.dropWhile_sublist _).subset opens))
  · cases called

/-! ## Names in capitals -/

/-- A character of a name in capitals. -/
def inCapitalName (c : Char) : Bool :=
  c.isUpper || c.isDigit || c == '_'

/-- What all characters of names in capitals have in common. -/
@[mk_iff]
structure PlainCapital (c : Char) : Prop where
  capital : Text.Case.capital c = [c]
  word : Text.isWord c = true
  full : Text.isBlank c = false
  unmarked : c ∉ ['(', '[', ']', '.', '+', '-']

instance : DecidablePred PlainCapital := fun c => decidable_of_iff _ (plainCapital_iff c).symm

/-- A character of a symbol: an ASCII letter or digit, or an underscore. -/
def inSymbol (c : Char) : Bool :=
  c.isAlphanum || c == '_'

theorem inSymbol_iff {c : Char} : inSymbol c = true ↔
    ((c.isUpper = true ∨ c.isLower = true) ∨ c.isDigit = true) ∨ c = '_' := by
  have parts : inSymbol c = (((c.isUpper || c.isLower) || c.isDigit) || c == '_') := rfl
  rw [parts, Bool.or_eq_true, Bool.or_eq_true, Bool.or_eq_true, beq_iff_eq]

theorem toNat_lt_of_inSymbol {c : Char} (inside : inSymbol c = true) : c.toNat < 128 := by
  have bounded : ∀ last : Char, last.toNat < 128 → c.val ≤ last.val → c.toNat < 128 :=
    fun _ ascii most => Nat.lt_of_le_of_lt most ascii
  rcases inSymbol_iff.1 inside with ((upper | lower) | digit) | rfl
  · exact bounded 'Z' (by decide) (of_decide_eq_true upper).2
  · exact bounded 'z' (by decide) (of_decide_eq_true (Bool.and_eq_true_iff.1 lower).2)
  · exact bounded '9' (by decide) (of_decide_eq_true (Bool.and_eq_true_iff.1 digit).2)
  · decide

/-- What holds of some ASCII letters, digits or underscores can be found out one by one. -/
theorem forall_ascii {P : Char → Prop} {p : Char → Bool}
    (within : ∀ c, p c = true → inSymbol c = true)
    (each : ∀ code < 128, p (Char.ofNat code) = true → P (Char.ofNat code)) {c : Char}
    (inside : p c = true) : P c := by
  have here := each c.toNat (toNat_lt_of_inSymbol (within c inside))
  rw [Char.ofNat_toNat] at here
  exact here inside

theorem plainCapital_of_inCapitalName {c : Char} (inside : inCapitalName c = true) :
    PlainCapital c := by
  refine forall_ascii (p := inCapitalName) ?_ (by decide +kernel) inside
  intro c inside
  rw [inCapitalName, Bool.or_eq_true, Bool.or_eq_true, beq_iff_eq] at inside
  rw [inSymbol_iff]
  exact inside.imp_left fun named => named.imp_left .inl

/-- What a name must not be to stand for a value. -/
def reserved : List Text :=
  registers ++ conditions ++ (["HLI", "HLD"] : List Text)

theorem looksImmediate_of_isRunOf {text : Text} (words : isRunOf Text.isWord text = true) :
    looksImmediate text = true := by
  have mark : ∀ {c : Char} {rest : Text}, isRunOf Text.isWord (c :: rest) = true →
      Text.isWord c = true := fun run => List.all_eq_true.1 (Bool.and_eq_true_iff.1 run).2 _
        List.mem_cons_self
  unfold looksImmediate
  split
  · exact absurd (mark words) (by decide)
  · exact absurd (mark words) (by decide)
  · exact absurd (mark words) (by decide)
  · exact absurd (mark words) (by decide +kernel)
  · exact words

section CapitalName

variable {name : Text} (capital : isCapitalName name = true)
include capital

theorem inCapitalName_of_mem : ∀ c ∈ name, inCapitalName c = true := by
  cases name with
  | nil => cases capital
  | cons c rest =>
    obtain ⟨first, others⟩ := Bool.and_eq_true_iff.1 capital
    refine List.forall_mem_cons.2 ⟨?_, List.all_eq_true.1 others⟩
    rw [Bool.or_eq_true] at first
    rcases first with upper | score
    · rw [inCapitalName, upper]
      rfl
    · rw [inCapitalName, score, Bool.or_true]

theorem plainCapital_of_mem : ∀ c ∈ name, PlainCapital c := fun c member =>
  plainCapital_of_inCapitalName (inCapitalName_of_mem capital c member)

theorem upper_of_isCapitalName : Text.upper name = name := by
  rw [Text.upper, List.flatMap_congr fun c member => (plainCapital_of_mem capital c member).capital,
    List.flatMap_singleton']

/-- A mark does not stand in a name. -/
theorem not_mem_of_isCapitalName {mark : Char} (marked : mark ∈ ['(', '[', ']', '.', '+', '-']) :
    mark ∉ name := fun member => (plainCapital_of_mem capital mark member).unmarked marked

theorem exists_first : ∃ first rest, name = first :: rest ∧
    (first.isUpper || first == '_') = true := by
  cases name with
  | nil => cases capital
  | cons c rest => exact ⟨c, rest, rfl, (Bool.and_eq_true_iff.1 capital).1⟩

theorem isRunOf_isWord : isRunOf Text.isWord name = true := by
  obtain ⟨first, rest, rfl, -⟩ := exists_first capital
  exact List.all_eq_true.2 fun c member => (plainCapital_of_mem capital c member).word

theorem isIdentifier_of_isCapitalName : isIdentifier name = true := by
  obtain ⟨first, rest, rfl, begins⟩ := exists_first capital
  refine Bool.and_eq_true_iff.2 ⟨?_, List.all_eq_true.2 fun c member =>
    (plainCapital_of_mem capital c (List.mem_cons_of_mem first member)).word⟩
  rw [Bool.or_eq_true] at begins
  refine Bool.or_eq_true_iff.2 (begins.imp_left fun upper => ?_)
  exact Bool.or_eq_true_iff.2 (.inl upper)

/-- A name behind a point is a relative target. -/
theorem formOf_local : formOf ('.' :: name) = "R8" := by
  have upper : Text.upper ('.' :: name) = '.' :: name :=
    congrArg ('.' :: ·) (upper_of_isCapitalName capital)
  have unmarked : ∀ mark ∈ ['(', '['], mark ∉ '.' :: name := by
    have others : ∀ mark ∈ ['(', '['], mark ≠ '.' ∧ mark ∈ ['(', '[', ']', '.', '+', '-'] :=
      Text.forall_mem_of_all (by decide)
    intro mark marked member
    obtain ⟨other, among⟩ := others mark marked
    exact not_mem_of_isCapitalName capital among ((List.mem_cons.1 member).resolve_left other)
  have same : memoryForm ('.' :: name) = '.' :: name := by
    refine memoryForm_of_closed upper (List.forall_mem_cons.2 ⟨by decide, fun c member => ?_⟩)
      (unmarked '(' (by decide)) (unmarked '[' (by decide))
    exact (plainCapital_of_mem capital c member).full
  have byte : isByteFunction (Text.upper ('.' :: name)) = false := by
    rw [upper]
    exact isByteFunction_of_not_mem (unmarked '(' (by decide))
  have immediate : isImmediate ('.' :: name) = false := rfl
  have inside : inBrackets? ('.' :: name) = none := rfl
  have offset : isStackOffset ('.' :: name) = false := rfl
  have target : isTarget ('.' :: name) = true := by
    rw [isTarget_local, isRunOf_isWord capital, isRegister, isCondition, upper]
    rfl
  simp only [formOf, same, byte, immediate, inside, offset, target, Bool.false_eq_true, if_false,
    if_true]

variable (free : name ∉ reserved)
include free

theorem isRegister_eq_false : isRegister name = false := by
  rw [isRegister, upper_of_isCapitalName capital, Bool.eq_false_iff]
  intro register
  exact free (by simp [reserved, List.contains_iff_mem.1 register])

theorem isCondition_eq_false : isCondition name = false := by
  rw [isCondition, upper_of_isCapitalName capital, Bool.eq_false_iff]
  intro condition
  exact free (by simp [reserved, List.contains_iff_mem.1 condition])

/-- A name by itself is a value of two bytes. -/
theorem formOf_name : formOf name = "D16" := by
  have plain : '(' ∉ name := not_mem_of_isCapitalName capital (by decide)
  have same : memoryForm name = name := memoryForm_of_closed (upper_of_isCapitalName capital)
    (fun c member => (plainCapital_of_mem capital c member).full) plain
    (not_mem_of_isCapitalName capital (by decide))
  have byte : isByteFunction (Text.upper name) = false := by
    rw [upper_of_isCapitalName capital]
    exact isByteFunction_of_not_mem plain
  have register := isRegister_eq_false capital free
  have condition := isCondition_eq_false capital free
  have immediate : isImmediate name = true := by
    rw [isImmediate, looksImmediate_of_isRunOf (isRunOf_isWord capital), register, condition]
    rfl
  have wide : isWide name = true := by
    rw [isWide, isIdentifier_of_isCapitalName capital, register, condition]
    simp
  simp only [formOf, same, byte, immediate, wide, Bool.false_eq_true, if_false, if_true]

theorem memoryReference_name : memoryReference name = "[A16]" := by
  have through : indirections.contains name = false := by
    have each : ∀ inner ∈ indirections, inner ∈ reserved ∨ '+' ∈ inner ∨ '-' ∈ inner := by decide
    rw [Bool.eq_false_iff]
    intro among
    rcases each name (List.contains_iff_mem.1 among) with taken | plus | minus
    · exact free taken
    · exact not_mem_of_isCapitalName capital (by decide) plus
    · exact not_mem_of_isCapitalName capital (by decide) minus
  have port : name ≠ "$FF00+C" := by
    rintro rfl
    cases capital
  rw [memoryReference, through, if_neg Bool.false_ne_true, if_neg port, if_pos capital]

/-- No step of `HL` is written in the brackets around a name. -/
theorem still_in_brackets : ∀ spelling ∈ (["[HLI]", "[HLD]"] : List Text),
    ¬ spelling <:+: '[' :: (name ++ [']']) := by
  have unmarked : ∀ mark ∈ ['[', ']'], mark ∉ name := by
    have others : ∀ mark ∈ ['[', ']'], mark ∈ ['(', '[', ']', '.', '+', '-'] :=
      Text.forall_mem_of_all (by decide)
    exact fun mark marked => not_mem_of_isCapitalName capital (others mark marked)
  have each : ∀ spelling ∈ (["[HLI]", "[HLD]"] : List Text), ∃ step ∈ reserved,
      spelling = '[' :: (step ++ [']']) := by decide
  intro spelling member inside
  obtain ⟨step, taken, rfl⟩ := each spelling member
  rcases List.infix_cons_iff.1 inside with begins | within
  · obtain ⟨rest, whole⟩ := (List.cons_prefix_cons.1 begins).2
    rw [List.append_assoc] at whole
    obtain ⟨same, -, -⟩ := (List.append_cons_inj_of_notMem (unmarked ']' (by decide))
      List.not_mem_nil).1 whole.symm
    exact free (same ▸ taken)
  · have bracket := within.subset List.mem_cons_self
    rcases List.mem_append.1 bracket with here | there
    · exact unmarked '[' (by decide) here
    · revert there
      decide

/-- A name in brackets is an address. -/
theorem formOf_in_brackets : formOf ('[' :: (name ++ [']'])) = "[A16]" := by
  have upper : Text.upper ('[' :: (name ++ [']'])) = '[' :: (name ++ [']']) := by
    rw [← List.singleton_append, Text.upper, List.flatMap_append, List.flatMap_append, ← Text.upper,
      ← Text.upper, ← Text.upper, upper_of_isCapitalName capital]
    rfl
  have plain : '(' ∉ '[' :: (name ++ [']']) := by
    have inside : '(' ∉ name := not_mem_of_isCapitalName capital (by decide)
    simp [inside]
  have full : ∀ c ∈ '[' :: (name ++ [']']), Text.isBlank c = false := by
    refine List.forall_mem_cons.2 ⟨by decide, fun c member => ?_⟩
    rcases List.mem_append.1 member with here | there
    · exact (plainCapital_of_mem capital c here).full
    · rw [List.mem_singleton.1 there]
      decide
  have same := memoryForm_eq_self upper full
    (unified_eq_self plain (still_in_brackets capital free))
  have byte : isByteFunction (Text.upper ('[' :: (name ++ [']']))) = false := by
    rw [upper]
    exact isByteFunction_of_not_mem plain
  have immediate : isImmediate ('[' :: (name ++ [']'])) = false := rfl
  have inside : inBrackets? ('[' :: (name ++ [']'])) = some name := by
    simp [inBrackets?, Text.before?, Text.after?, List.isPrefixOf?]
  simp only [formOf, same, byte, immediate, inside, Bool.false_eq_true, if_false]
  exact memoryReference_name capital free

end CapitalName

/-! ## Symbols in any case -/

/-- An ASCII letter or an underscore, and letters, digits and underscores behind it, in capitals
neither a register nor a condition nor a step of `HL`. -/
structure IsSymbol (name : Text) : Prop where
  begins : name.head?.any (fun c => c.isAlpha || c == '_') = true
  letters : ∀ c ∈ name, inSymbol c = true
  free : Text.upper name ∉ reserved

/-- Without blanks and with something that is no digit in it, an operand can be read. -/
theorem form_eq_formOf {text : Text} (full : ∀ c ∈ text, Text.isBlank c = false)
    (other : ∃ c ∈ text, Text.isDecimal c = false) : form text = .ok (formOf text) := by
  obtain ⟨c, member, plain⟩ := other
  have mixed : text.all Text.isDecimal = false :=
    List.all_eq_false.2 ⟨c, member, by rw [plain]; exact Bool.false_ne_true⟩
  rw [form, Text.trim_of_isTrimmed (Text.isTrimmed_of_forall full), overlong?, mixed,
    Bool.false_and]
  rfl

namespace IsSymbol

variable {name : Text} (is : IsSymbol name)
include is

theorem isCapitalName_asciiUpper : isCapitalName (asciiUpper name) = true := by
  obtain ⟨begins, letters, -⟩ := is
  cases name with
  | nil => cases begins
  | cons c rest =>
    obtain ⟨first, others⟩ := List.forall_mem_cons.1 letters
    refine Bool.and_eq_true_iff.2 ⟨?_, List.all_eq_true.2 fun d member => ?_⟩
    · exact forall_ascii (P := fun c => (c.isAlpha || c == '_') = true →
        (c.toUpper.isUpper || c.toUpper == '_') = true) (fun _ => id) (by decide) first begins
    · obtain ⟨letter, inside, rfl⟩ := List.mem_map.1 member
      exact forall_ascii (P := fun c => inCapitalName c.toUpper = true) (fun _ => id)
        (by decide +kernel) (others letter inside)

theorem asciiUpper_not_mem_reserved : asciiUpper name ∉ reserved := by
  have same : Text.upper name = asciiUpper name := by
    rw [← Text.upper_asciiUpper, upper_of_isCapitalName is.isCapitalName_asciiUpper]
  exact same ▸ is.free

theorem full : ∀ c ∈ asciiUpper name, Text.isBlank c = false := fun c member =>
  (plainCapital_of_mem is.isCapitalName_asciiUpper c member).full

theorem exists_other : ∃ c ∈ asciiUpper name, Text.isDecimal c = false := by
  obtain ⟨first, rest, whole, begins⟩ := exists_first is.isCapitalName_asciiUpper
  refine ⟨first, whole ▸ List.mem_cons_self, ?_⟩
  refine forall_ascii (P := fun c => Text.isDecimal c = false)
    (p := fun c => c.isUpper || c == '_') ?_ (by decide) begins
  intro c inside
  rw [Bool.or_eq_true, beq_iff_eq] at inside
  rw [inSymbol_iff]
  exact inside.imp_left fun upper => .inl (.inl upper)

end IsSymbol

end Operand

open Operand (IsSymbol)

namespace Opcode

/-! ## Operands that hold a symbol -/

/-- How an instruction may use a symbol: not in this operand, by itself, behind a point, or in
brackets. -/
inductive Slot where
  | given (text : Text)
  | global
  | point
  | address
deriving DecidableEq

namespace Slot

/-- The operand for a symbol. -/
def fill (name : Text) : Slot → Text
  | given text => text
  | global => name
  | point => '.' :: name
  | address => '[' :: (name ++ [']'])

/-- The form of the operand, whatever the symbol is. -/
def form : Slot → Except Numeral.Error Text
  | given text => Operand.form text
  | global => .ok "D16"
  | point => .ok "R8"
  | address => .ok "[A16]"

/-- The form of an operand that holds a symbol does not depend on its name. -/
theorem form_fill {name : Text} (is : IsSymbol name) (slot : Slot) :
    Operand.form (slot.fill name) = slot.form := by
  have capital := is.isCapitalName_asciiUpper
  have free := is.asciiUpper_not_mem_reserved
  cases slot with
  | given text => rfl
  | global =>
    rw [fill, ← Operand.form_asciiUpper, Operand.form_eq_formOf is.full is.exists_other,
      Operand.formOf_name capital free]
    rfl
  | point =>
    have whole : asciiUpper ('.' :: name) = '.' :: asciiUpper name := rfl
    have full : ∀ c ∈ '.' :: asciiUpper name, Text.isBlank c = false :=
      List.forall_mem_cons.2 ⟨by decide, is.full⟩
    rw [fill, ← Operand.form_asciiUpper, whole,
      Operand.form_eq_formOf full ⟨'.', List.mem_cons_self, by decide +kernel⟩,
      Operand.formOf_local capital]
    rfl
  | address =>
    have whole : asciiUpper ('[' :: (name ++ [']'])) = '[' :: (asciiUpper name ++ [']']) := by
      rw [asciiUpper, List.map_cons, List.map_append]
      rfl
    have full : ∀ c ∈ '[' :: (asciiUpper name ++ [']']), Text.isBlank c = false := by
      refine List.forall_mem_cons.2 ⟨by decide, fun c member => ?_⟩
      rcases List.mem_append.1 member with here | there
      · exact is.full c here
      · rw [List.mem_singleton.1 there]
        decide
    rw [fill, ← Operand.form_asciiUpper, whole,
      Operand.form_eq_formOf full ⟨'[', List.mem_cons_self, by decide +kernel⟩,
      Operand.formOf_in_brackets capital free]
    rfl

end Slot

/-! ## What is found -/

/-- A mnemonic whose instructions are found by the forms of their operands alone. -/
def isOrdinary (mnemonic : Text) : Bool :=
  Text.upper mnemonic == mnemonic && !extendedMnemonics.contains mnemonic
    && mnemonic != ("RST" : Text)

theorem find?_of_ordinary (table : Table) {mnemonic : Text} (ordinary : isOrdinary mnemonic = true)
    (operands forms : List Text) :
    table.find? (Text.upper mnemonic) operands forms = table.find? mnemonic [] forms := by
  simp only [isOrdinary, Bool.and_eq_true, beq_iff_eq, Bool.not_eq_true', bne_iff_ne] at ordinary
  obtain ⟨⟨capitals, plain⟩, other⟩ := ordinary
  have none : restartOf? mnemonic operands = none := by
    unfold restartOf?
    split
    · exact if_neg other
    · rfl
  rw [capitals, Table.find?, Table.find?, plain, none]
  rfl

theorem mapM_fill {name : Text} (is : IsSymbol name) (slots : List Slot) :
    (slots.map (Slot.fill name)).mapM Operand.form = slots.mapM Slot.form := by
  induction slots with
  | nil => rfl
  | cons slot slots ih => rw [List.map_cons, List.mapM_cons, List.mapM_cons, slot.form_fill is, ih]

/-- **What is found for an instruction on a symbol does not depend on the name**: only the way it is
used gives the forms of the operands. -/
theorem lookup_fill (table : Table) {name : Text} (is : IsSymbol name) {mnemonic : Text}
    (ordinary : isOrdinary mnemonic = true) (slots : List Slot) :
    table.lookup mnemonic (slots.map (Slot.fill name)) =
      (slots.mapM Slot.form).map (table.find? mnemonic []) := by
  rw [Table.lookup, mapM_fill is]
  cases slots.mapM Slot.form with
  | error cause => rfl
  | ok forms => exact congrArg Except.ok (find?_of_ordinary table ordinary _ forms)

/-- What is found for an instruction on any symbol satisfies `p`. -/
def Leads (mnemonic : Text) (slots : List Slot) (p : Entry → Bool) : Bool :=
  isOrdinary mnemonic &&
    match slots.mapM Slot.form with
    | .ok forms => (Table.standard.find? mnemonic [] forms).any p
    | .error _ => false

theorem exists_of_leads {name : Text} (is : IsSymbol name) {mnemonic : Text} {slots : List Slot}
    {p : Entry → Bool} (leads : Leads mnemonic slots p = true) :
    ∃ entry, Table.standard.lookup mnemonic (slots.map (Slot.fill name)) = .ok (some entry) ∧
      p entry = true := by
  obtain ⟨ordinary, found⟩ := Bool.and_eq_true_iff.1 leads
  rw [lookup_fill _ is ordinary]
  split at found
  · next forms read =>
    obtain ⟨entry, there, holds⟩ := (Option.any_eq_true _ _).1 found
    exact ⟨entry, by rw [read, ← there]; rfl, holds⟩
  · cases found

/-- The instruction is found, and its entry has the mnemonic and the given operands. -/
def Resolves (mnemonic : Text) (operands tokens : List Text) : Prop :=
  ∃ entry, Table.standard.lookup mnemonic operands = .ok (some entry) ∧
    entry.mnemonic = mnemonic ∧ entry.operands = tokens

/-- The instruction is found, and its entry is the unprefixed one with the given opcode. -/
def ResolvesTo (mnemonic : Text) (operands : List Text) (opcode : Int) : Prop :=
  ∃ entry, Table.standard.lookup mnemonic operands = .ok (some entry) ∧
    entry.extended = false ∧ entry.opcode = opcode

/-- The entry has the mnemonic and the operands. -/
def Entry.reads (mnemonic : Text) (tokens : List Text) (entry : Entry) : Bool :=
  entry.mnemonic == mnemonic && entry.operands == tokens

/-- The entry is unprefixed and has the opcode. -/
def Entry.encodes (opcode : Int) (entry : Entry) : Bool :=
  !entry.extended && entry.opcode == opcode

/-- The addition to the stack pointer and the accesses to memory, with their opcodes. -/
def accesses : List (Text × List Slot × Int) := [
  ("ADD", [.given "SP", .global], 0xE8),
  ("LD", [.given "A", .address], 0xFA),
  ("LD", [.address, .given "A"], 0xEA),
  ("LD", [.address, .given "SP"], 0x08),
  ("LDH", [.given "A", .address], 0xF0),
  ("LDH", [.address, .given "A"], 0xE0)]

/-- What the table has for branches, loads, arithmetic and accesses to memory. -/
theorem leads_of_table :
    (∀ slot ∈ [Slot.global, Slot.point],
      ∀ branch ∈ ([("CALL", "A16"), ("JP", "A16"), ("JR", "R8")] : List (Text × Text)),
        Leads branch.1 [slot] (Entry.reads branch.1 [branch.2]) = true ∧
        ∀ condition ∈ (["NZ", "Z", "NC", "C"] : List Text),
          Leads branch.1 [.given condition, slot]
            (Entry.reads branch.1 [condition, branch.2]) = true) ∧
    (∀ pair ∈ (["BC", "DE", "HL", "SP"] : List Text),
      Leads "LD" [.given pair, .global] (Entry.reads "LD" [pair, "D16"]) = true) ∧
    (∀ register ∈ (["A", "B", "C", "D", "E", "H", "L", "[HL]"] : List Text),
      Leads "LD" [.given register, .global] (Entry.reads "LD" [register, "D8"]) = true) ∧
    (∀ mnemonic ∈ (["ADD", "ADC", "SBC"] : List Text),
      Leads mnemonic [.given "A", .global] (Entry.reads mnemonic ["A", "D8"]) = true) ∧
    (∀ mnemonic ∈ (["SUB", "AND", "XOR", "OR", "CP"] : List Text),
      Leads mnemonic [.global] (Entry.reads mnemonic ["D8"]) = true) ∧
    ∀ access ∈ accesses, Leads access.1 access.2.1 (Entry.encodes access.2.2) = true := by
  decide +kernel

section Symbol

variable {name : Text} (is : IsSymbol name)
include is

theorem resolves_of_leads {mnemonic : Text} (slots : List Slot) {tokens : List Text}
    (leads : Leads mnemonic slots (Entry.reads mnemonic tokens) = true) :
    Resolves mnemonic (slots.map (Slot.fill name)) tokens := by
  obtain ⟨entry, found, reads⟩ := exists_of_leads is leads
  rw [Entry.reads, Bool.and_eq_true, beq_iff_eq, beq_iff_eq] at reads
  exact ⟨entry, found, reads⟩

theorem resolvesTo_of_leads {mnemonic : Text} (slots : List Slot) {opcode : Int}
    (leads : Leads mnemonic slots (Entry.encodes opcode) = true) :
    ResolvesTo mnemonic (slots.map (Slot.fill name)) opcode := by
  obtain ⟨entry, found, encodes⟩ := exists_of_leads is leads
  rw [Entry.encodes, Bool.and_eq_true, Bool.not_eq_true', beq_iff_eq] at encodes
  exact ⟨entry, found, encodes⟩

/-- A branch to a symbol takes it for its target. -/
theorem resolves_branch (slot : Slot) (used : slot ∈ [Slot.global, Slot.point])
    {branch : Text × Text}
    (listed : branch ∈ ([("CALL", "A16"), ("JP", "A16"), ("JR", "R8")] : List (Text × Text))) :
    Resolves branch.1 [slot.fill name] [branch.2] ∧
      ∀ condition ∈ (["NZ", "Z", "NC", "C"] : List Text),
        Resolves branch.1 [condition, slot.fill name] [condition, branch.2] := by
  obtain ⟨always, conditional⟩ := leads_of_table.1 slot used branch listed
  refine ⟨resolves_of_leads is [slot] always, fun condition known => ?_⟩
  exact resolves_of_leads is [.given condition, slot] (conditional condition known)

/-- A load of a symbol takes it for a value as wide as the register. -/
theorem resolves_load {register token : Text}
    (wide : register ∈ (["BC", "DE", "HL", "SP"] : List Text) ∧ token = "D16" ∨
      register ∈ (["A", "B", "C", "D", "E", "H", "L", "[HL]"] : List Text) ∧ token = "D8") :
    Resolves "LD" [register, name] [register, token] := by
  obtain ⟨-, pairs, bytes, -⟩ := leads_of_table
  rcases wide with ⟨pair, rfl⟩ | ⟨byte, rfl⟩
  · exact resolves_of_leads is [.given register, .global] (pairs register pair)
  · exact resolves_of_leads is [.given register, .global] (bytes register byte)

/-- Arithmetic on a symbol takes it for a byte, whether the accumulator is written or not. -/
theorem resolves_arithmetic {mnemonic : Text} :
    (mnemonic ∈ (["ADD", "ADC", "SBC"] : List Text) →
      Resolves mnemonic ["A", name] ["A", "D8"]) ∧
    (mnemonic ∈ (["SUB", "AND", "XOR", "OR", "CP"] : List Text) →
      Resolves mnemonic [name] ["D8"]) := by
  obtain ⟨-, -, -, written, implied, -⟩ := leads_of_table
  constructor
  · exact fun listed => resolves_of_leads is [.given "A", .global] (written mnemonic listed)
  · exact fun listed => resolves_of_leads is [.global] (implied mnemonic listed)

/-- An addition to the stack pointer takes a symbol for an offset, and an access to memory takes it
for an address. -/
theorem resolvesTo_access (access : Text × List Slot × Int) (listed : access ∈ accesses) :
    ResolvesTo access.1 (access.2.1.map (Slot.fill name)) access.2.2 := by
  obtain ⟨-, -, -, -, -, each⟩ := leads_of_table
  exact resolvesTo_of_leads is access.2.1 (each access listed)

/-- **An instruction on a symbol is found whatever the symbol is called**: branches, loads and
arithmetic in their immediate forms, the addition to the stack pointer, and the accesses to memory
by an address of two bytes, or of one byte for `LDH`. -/
theorem resolves_symbol :
    (∀ target ∈ [name, '.' :: name],
      ∀ branch ∈ ([("CALL", "A16"), ("JP", "A16"), ("JR", "R8")] : List (Text × Text)),
        Resolves branch.1 [target] [branch.2] ∧
        ∀ condition ∈ (["NZ", "Z", "NC", "C"] : List Text),
          Resolves branch.1 [condition, target] [condition, branch.2]) ∧
    (∀ pair ∈ (["BC", "DE", "HL", "SP"] : List Text), Resolves "LD" [pair, name] [pair, "D16"]) ∧
    (∀ register ∈ (["A", "B", "C", "D", "E", "H", "L", "[HL]"] : List Text),
      Resolves "LD" [register, name] [register, "D8"]) ∧
    (∀ mnemonic ∈ (["ADD", "ADC", "SBC"] : List Text),
      Resolves mnemonic ["A", name] ["A", "D8"]) ∧
    (∀ mnemonic ∈ (["SUB", "AND", "XOR", "OR", "CP"] : List Text),
      Resolves mnemonic [name] ["D8"]) ∧
    ResolvesTo "ADD" ["SP", name] 0xE8 ∧
    ResolvesTo "LD" ["A", '[' :: (name ++ [']'])] 0xFA ∧
    ResolvesTo "LD" ['[' :: (name ++ [']']), "A"] 0xEA ∧
    ResolvesTo "LD" ['[' :: (name ++ [']']), "SP"] 0x08 ∧
    ResolvesTo "LDH" ["A", '[' :: (name ++ [']'])] 0xF0 ∧
    ResolvesTo "LDH" ['[' :: (name ++ [']']), "A"] 0xE0 := by
  refine ⟨fun target used branch listed => ?_, fun pair listed => ?_, fun register listed => ?_,
    fun mnemonic => (resolves_arithmetic is).1, fun mnemonic => (resolves_arithmetic is).2,
    ?_, ?_, ?_, ?_, ?_, ?_⟩
  · rcases List.mem_cons.1 used with rfl | local?
    · exact resolves_branch is .global (by decide) listed
    · rw [List.mem_singleton.1 local?]
      exact resolves_branch is .point (by decide) listed
  · exact resolves_load is (.inl ⟨listed, rfl⟩)
  · exact resolves_load is (.inr ⟨listed, rfl⟩)
  · exact resolvesTo_access is ("ADD", [.given "SP", .global], 0xE8) (by decide)
  · exact resolvesTo_access is ("LD", [.given "A", .address], 0xFA) (by decide)
  · exact resolvesTo_access is ("LD", [.address, .given "A"], 0xEA) (by decide)
  · exact resolvesTo_access is ("LD", [.address, .given "SP"], 0x08) (by decide)
  · exact resolvesTo_access is ("LDH", [.given "A", .address], 0xF0) (by decide)
  · exact resolvesTo_access is ("LDH", [.address, .given "A"], 0xE0) (by decide)

end Symbol

/-- A symbol may be called like an operand of the table or like a numeral. -/
theorem resolves_symbol_like_operand :
    (IsSymbol "d8" ∧ Resolves "JP" ["d8"] ["A16"]) ∧
      IsSymbol "FF00" ∧ ResolvesTo "LD" ["A", "[FF00]"] 0xFA := by
  have operand : IsSymbol "d8" := ⟨by decide, Text.forall_mem_of_all (by decide), by decide⟩
  have numeral : IsSymbol "FF00" := ⟨by decide, Text.forall_mem_of_all (by decide), by decide⟩
  obtain ⟨branches, -⟩ := resolves_symbol operand
  obtain ⟨-, -, -, -, -, -, load, -⟩ := resolves_symbol numeral
  refine ⟨⟨operand, ?_⟩, numeral, load⟩
  exact (branches "d8" (by decide) ("JP", "A16") (by decide)).1

end Opcode

end Sm83Cost
