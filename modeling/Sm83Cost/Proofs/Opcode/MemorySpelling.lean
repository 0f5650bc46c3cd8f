import Sm83Cost.Proofs.Opcode.Symbols

/-!
# Spellings of memory operands

An access to memory is written in parentheses or in brackets, and blanks may stand
anywhere in them.  Neither matters: two operands that enclose the same text, blanks
left out, have the same one spelling (`memoryForm_of_encloses`).

The rest of the look-up has to agree too.  It reads an operand in two ways, by its
form and as a literal, and nothing else of it is looked at (`lookup_congr`).  The
form of what begins with a bracket or a parenthesis is told from its one spelling
(`Operand.formOf_of_isMemory`), and what is enclosed is no literal.  So instructions
are found in any table whatever spelling their operands have (`lookup_respelled`).
-/

namespace Sm83Cost

set_option autoImplicit false

open Line.Nesting (isOpener)

/-! ## Texts without blanks -/

/-- The text with all blanks left out. -/
def Text.compact (text : Text) : Text :=
  text.filter (!isBlank ·)

/-- Blanks may be left out before or after a text is put in capitals. -/
theorem Text.compact_upper (text : Text) : compact (upper text) = upper (compact text) := by
  induction text with
  | nil => rfl
  | cons c rest ih =>
    rw [upper, List.flatMap_cons, ← upper]
    unfold compact at ih ⊢
    rw [List.filter_append, ih]
    cases blank : isBlank c with
    | true =>
      have separates : c ∈ separators := List.mem_append_left _ (mem_blanks blank)
      rw [capital_of_separator separates, List.filter_cons_of_neg (by simp [blank]),
        List.filter_cons_of_neg (by simp [blank])]
      rfl
    | false =>
      have full : ∀ d ∈ Case.capital c, (!isBlank d) = true := by
        intro d member
        rw [Bool.not_eq_true', Bool.eq_false_iff]
        intro blank'
        have same := eq_of_capital member (List.mem_append_left _ (mem_blanks blank'))
        rw [same, blank] at blank'
        cases blank'
      rw [List.filter_eq_self.2 full, List.filter_cons_of_pos (by simp [blank])]
      rfl

namespace Operand

/-! ## Enclosed texts -/

/-- The operand is a text in parentheses or in brackets. -/
inductive Encloses (inner : Text) : Text → Prop where
  | parentheses : Encloses inner ('(' :: (inner ++ [')']))
  | brackets : Encloses inner ('[' :: (inner ++ [']']))

/-- Parentheses and brackets. -/
def marks : Text := ['(', ')', '[', ']']

/-- The text has no parentheses and no brackets in it, and is not blank. -/
structure IsAddress (inner : Text) : Prop where
  unmarked : ∀ mark ∈ marks, mark ∉ inner
  nonblank : ∃ c ∈ inner, Text.isBlank c = false

/-- Two operands are accesses to memory, at addresses that are the same without their blanks. -/
structure SameAccess (operand other : Text) (address address' : Text) : Prop where
  encloses : Encloses address operand
  encloses' : Encloses address' other
  isAddress : IsAddress address
  isAddress' : IsAddress address'
  same : Text.compact address = Text.compact address'

/-- The operands are the same, or two spellings of one access to memory. -/
def Respelled (operand other : Text) : Prop :=
  operand = other ∨ ∃ address address', SameAccess operand other address address'

/-- The signs after `HL` that step it, with their other spellings. -/
def steppings : List Text := ["HL+", "HLI", "HL-", "HLD"]

/-- The text with any mark that opens before it, and any that closes behind it. -/
def enclosures (inner : Text) : List Text :=
  ['(', '['].flatMap fun opening => [')', ']'].map fun closing => opening :: (inner ++ [closing])

/-- What is enclosed in a part of an enclosed text is the text itself. -/
theorem eq_of_infix_encloses {core inner : Text} {opening closing opening' closing' : Char}
    (unopened : opening' ∉ core ++ [closing]) (unclosed : closing' ∉ core)
    (inside : opening' :: (inner ++ [closing']) <:+: opening :: (core ++ [closing])) :
    inner = core := by
  obtain ⟨before, behind, whole⟩ := inside
  cases before with
  | cons c before =>
    have rest := (List.cons.inj whole).2
    refine absurd ?_ unopened
    rw [← rest]
    simp
  | nil =>
    have rest : inner ++ closing' :: behind = core ++ [closing] := by
      simpa using (List.cons.inj whole).2
    rcases List.append_eq_append_iff.1 rest with ⟨middle, rfl, tail⟩ | ⟨middle, rfl, tail⟩
    · cases middle with
      | nil => exact (List.append_nil inner).symm
      | cons d middle =>
        obtain ⟨rfl, -⟩ := List.cons.inj tail
        simp at unclosed
    · cases middle with
      | nil => exact List.append_nil core
      | cons d middle => simp at tail

section Core

variable {core : Text} (unmarked : ∀ mark ∈ marks, mark ∉ core)
include unmarked

/-- Nothing is replaced in an enclosed text that does not step `HL`. -/
theorem replaceAny_enclosed (still : core ∉ steppings) (spellings : List Text)
    (among : ∀ spelling ∈ spellings, spelling ∈ steppings.flatMap enclosures)
    (new : Text) (opening : Char) {closing : Char} (closes : closing ∈ [')', ']']) :
    Text.replaceAny spellings new (opening :: (core ++ [closing])) =
      opening :: (core ++ [closing]) := by
  refine replaceAny_of_missed new fun spelling member inside => still ?_
  obtain ⟨inner, steps, enclosed⟩ := List.mem_flatMap.1 (among spelling member)
  obtain ⟨opening', opens', closed⟩ := List.mem_flatMap.1 enclosed
  obtain ⟨closing', closes', rfl⟩ := List.mem_map.1 closed
  have unopened : opening' ∉ core ++ [closing] := by
    intro inside
    rcases List.mem_append.1 inside with within | last
    · have marked : ∀ opening ∈ ['(', '['], opening ∈ marks :=
        Text.forall_mem_of_all (by decide)
      exact unmarked opening' (marked opening' opens') within
    · have apart : ∀ opening ∈ ['(', '['], opening ∉ [')', ']'] :=
        Text.forall_mem_of_all (by decide)
      rw [List.mem_singleton.1 last] at opens'
      exact apart closing opens' closes
  have unclosed : closing' ∉ core := by
    have marked : ∀ closing ∈ [')', ']'], closing ∈ marks := Text.forall_mem_of_all (by decide)
    exact unmarked closing' (marked closing' closes')
  rw [← eq_of_infix_encloses unopened unclosed inside]
  exact steps

/-- The closing parenthesis becomes a bracket. -/
theorem bracketed_inside (tail : Text) :
    bracketed true (core ++ ')' :: tail) = core ++ ']' :: bracketed false tail := by
  have plain : ')' ∉ core := unmarked ')' (by decide)
  clear unmarked
  induction core with
  | nil => rfl
  | cons c rest ih =>
    rw [List.mem_cons, not_or] at plain
    rw [List.cons_append, bracketed, if_neg (Ne.symm plain.1), ih plain.2]
    rfl

/-- Parentheses around a text become brackets. -/
theorem bracketed_parentheses (nonempty : core ≠ []) :
    bracketed false ('(' :: (core ++ [')'])) = '[' :: (core ++ [']']) := by
  have plain : ')' ∉ core := unmarked ')' (by decide)
  have later : closesLater (core ++ [')']) = true := by
    obtain ⟨c, rest, rfl⟩ := List.exists_cons_of_ne_nil nonempty
    rw [List.mem_cons, not_or] at plain
    simp [closesLater, Ne.symm plain.1]
  rw [bracketed, later, if_pos (by simp), bracketed_inside unmarked]
  rfl

/-- In parentheses or in brackets, a text has one spelling. -/
theorem unified_parentheses (nonempty : core ≠ []) :
    unified ('(' :: (core ++ [')'])) = unified ('[' :: (core ++ [']'])) := by
  by_cases steps : core ∈ steppings
  · have each : ∀ core ∈ steppings,
        unified ('(' :: (core ++ [')'])) = unified ('[' :: (core ++ [']'])) := by
      decide
    exact each core steps
  · have keeps : ∀ {opening closing : Char}, closing ∈ [')', ']'] →
        unified (opening :: (core ++ [closing])) =
          bracketed false (opening :: (core ++ [closing])) := by
      intro opening closing closes
      have increments := replaceAny_enclosed unmarked steps ["(HL+)", "(HLI)", "[HLI]"]
        (by decide) "[HL+]" opening closes
      have decrements := replaceAny_enclosed unmarked steps ["(HL-)", "(HLD)", "[HLD]"]
        (by decide) "[HL-]" opening closes
      rw [unified, increments, decrements]
    have plain : '(' ∉ '[' :: (core ++ [']']) := by
      simpa using unmarked '(' (by decide)
    rw [keeps (by decide), keeps (by decide), bracketed_parentheses unmarked nonempty,
      bracketed_of_not_mem plain]

end Core

/-! ## The form of an access to memory -/

namespace IsAddress

variable {inner : Text} (address : IsAddress inner)
include address

/-- Capitals bring in no mark. -/
theorem unmarked_core : ∀ mark ∈ marks, mark ∉ Text.upper (Text.compact inner) := by
  intro mark marked member
  have separates : ∀ mark ∈ marks, mark ∈ Text.separators :=
    Text.forall_mem_of_all (by decide +kernel)
  obtain ⟨source, inside, capital⟩ := List.mem_flatMap.1 member
  have same := Text.eq_of_capital capital (separates mark marked)
  exact address.unmarked mark marked (same ▸ List.mem_of_mem_filter inside)

theorem core_ne_nil : Text.upper (Text.compact inner) ≠ [] := by
  obtain ⟨c, member, full⟩ := address.nonblank
  obtain ⟨first, capitals⟩ := List.exists_mem_of_ne_nil _ (Text.capital_ne_nil c)
  have inside : c ∈ Text.compact inner := List.mem_filter.2 ⟨member, by rw [full]; rfl⟩
  exact List.ne_nil_of_mem (List.mem_flatMap.2 ⟨c, inside, capitals⟩)

end IsAddress

section Encloses

variable {inner operand : Text} (encloses : Encloses inner operand)
include encloses

theorem Encloses.opener : operand.head?.any isOpener = true := by
  cases encloses <;> rfl

theorem Encloses.trim : Text.trim operand = operand := by
  have ends : ∀ {opening closing : Char}, Text.isBlank opening = false →
      Text.isBlank closing = false →
      Text.trim (opening :: (inner ++ [closing])) = opening :: (inner ++ [closing]) := by
    intro opening closing first last
    refine Text.trim_of_isTrimmed ⟨first, ?_⟩
    rw [← List.cons_append, List.getLast?_concat]
    exact last
  cases encloses <;> exact ends (by decide) (by decide)

theorem Encloses.value? : Literal.value? operand = none := by
  have each : ∀ mark ∈ ['(', '['], isOpener mark = true ∧ mark ∈ Text.Case.capital mark :=
    Text.forall_mem_of_all (by decide)
  obtain ⟨mark, first, opens⟩ : ∃ mark, operand.head? = some mark ∧ mark ∈ ['(', '['] := by
    cases encloses with
    | parentheses => exact ⟨'(', rfl, by decide⟩
    | brackets => exact ⟨'[', rfl, by decide⟩
  obtain ⟨opener, capital⟩ := each mark opens
  refine Literal.value?_of_mem opener ?_
  rw [encloses.trim]
  exact List.mem_flatMap.2 ⟨mark, List.mem_of_mem_head? first, capital⟩

theorem Encloses.overlong? : Operand.overlong? operand = none := by
  have plain : operand.all Text.isDecimal = false := by
    cases encloses <;> rfl
  rw [Operand.overlong?, plain]
  rfl

variable (address : IsAddress inner)
include address

/-- **An access to memory has one spelling**, which depends only on what is enclosed, blanks left
out. -/
theorem memoryForm_of_encloses :
    memoryForm operand = unified ('[' :: (Text.upper (Text.compact inner) ++ [']'])) := by
  have compacts : ∀ opening ∈ marks, ∀ closing ∈ marks,
      Text.compact (Text.upper (opening :: (inner ++ [closing]))) =
        opening :: (Text.upper (Text.compact inner) ++ [closing]) := by
    have each : ∀ mark ∈ marks, Text.isBlank mark = false ∧ Text.Case.capital mark = [mark] :=
      Text.forall_mem_of_all (by decide)
    intro opening opens closing closes
    obtain ⟨first, capital⟩ := each opening opens
    obtain ⟨last, capital'⟩ := each closing closes
    rw [Text.compact_upper]
    simp [Text.compact, Text.upper, first, last, capital, capital']
  cases encloses with
  | parentheses =>
    rw [memoryForm, ← Text.compact, compacts _ (by decide) _ (by decide),
      unified_parentheses address.unmarked_core address.core_ne_nil]
  | brackets => rw [memoryForm, ← Text.compact, compacts _ (by decide) _ (by decide)]

theorem isMemory_of_encloses : isMemory (memoryForm operand) = true := by
  rw [memoryForm_of_encloses encloses address, ← memoryForm_of_encloses .brackets address]
  exact isMemory_memoryForm rfl

end Encloses

/-- Two spellings of one access to memory cannot be told apart. -/
theorem SameAccess.alike {operand other address address' : Text}
    (access : SameAccess operand other address address') : Operand.Alike operand other := by
  have one : memoryForm operand = memoryForm other := by
    rw [memoryForm_of_encloses access.encloses access.isAddress,
      memoryForm_of_encloses access.encloses' access.isAddress', access.same]
  constructor
  · rw [form, form, access.encloses.trim, access.encloses'.trim, access.encloses.overlong?,
      access.encloses'.overlong?]
    dsimp only
    rw [formOf_of_isMemory access.encloses.opener
        (isMemory_of_encloses access.encloses access.isAddress),
      formOf_of_isMemory access.encloses'.opener
        (isMemory_of_encloses access.encloses' access.isAddress'), one]
  · rw [access.encloses.value?, access.encloses'.value?]

theorem Respelled.alike {operand other : Text} (respelled : Respelled operand other) :
    Operand.Alike operand other := by
  rcases respelled with rfl | ⟨address, address', access⟩
  · exact ⟨rfl, rfl⟩
  · exact access.alike

end Operand

namespace Opcode

/-- **Memory operands are recognised by what they enclose.**  Two lists of operands are the same but
for memory operands, which may stand in parentheses or in brackets and have blanks anywhere in
them.  In any table the same is found for both. -/
theorem lookup_respelled (table : Table) (mnemonic : Text) {operands others : List Text}
    (respelled : List.Forall₂ Operand.Respelled operands others) :
    table.lookup mnemonic operands = table.lookup mnemonic others :=
  table.lookup_congr (respelled.imp fun _ _ => Operand.Respelled.alike) mnemonic

/-- A step of `HL` that is written in parentheses, with blanks. -/
theorem lookup_respelled_increment :
    (Table.standard.lookup "ld" ["( hl\t+ )", "a"]).map (·.map Entry.opcode) =
      .ok (some 0x22) := by
  have respelled : List.Forall₂ Operand.Respelled ["( hl\t+ )", "a"] ["[hl+]", "a"] := by
    have access : Operand.SameAccess "( hl\t+ )" "[hl+]" " hl\t+ " "hl+" := by
      have spaced : Operand.IsAddress " hl\t+ " :=
        ⟨Text.forall_mem_of_all (by decide), 'h', by decide, by decide⟩
      have plain : Operand.IsAddress "hl+" :=
        ⟨Text.forall_mem_of_all (by decide), 'h', by decide, by decide⟩
      exact ⟨.parentheses, .brackets, spaced, plain, by decide⟩
    exact .cons (.inr ⟨_, _, access⟩) (.cons (.inl rfl) .nil)
  rw [lookup_respelled .standard "ld" respelled]
  decide +kernel

end Opcode

end Sm83Cost
