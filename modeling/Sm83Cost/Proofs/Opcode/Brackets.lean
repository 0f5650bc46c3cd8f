import Mathlib.Data.List.Basic
import Sm83Cost.Line.Nesting
import Sm83Cost.Opcode.Lookup
import Sm83Cost.Proofs.Text.Trim

/-!
# Operands in brackets

An operand is an access to memory when its form begins with a bracket.  An operand
that is written in brackets keeps them (`Operand.isMemory_form`), and a form in
brackets comes only from an operand with a bracket or a parenthesis in it
(`Operand.exists_opener`).  No numeral has one, so an operand that names a restart
vector is no access to memory (`Operand.isMemory_of_value?`).
-/

namespace Sm83Cost

set_option autoImplicit false

open Line.Nesting (isOpener)

namespace Operand

/-! ## Forms that begin with a bracket -/

/-- The form of an access to memory. -/
def isMemory (form : Text) : Bool :=
  form.head? == some '['

theorem isMemory_iff {form : Text} : isMemory form = true ↔ ∃ rest, form = '[' :: rest := by
  rw [isMemory, beq_iff_eq, List.head?_eq_some_iff]

theorem isMemory_memoryReference (inner : Text) : isMemory (memoryReference inner) = true := by
  unfold memoryReference
  repeat' split
  all_goals rfl

theorem isMemory_of_inBrackets? {text inner : Text} (inside : inBrackets? text = some inner) :
    isMemory text = true := by
  unfold inBrackets? at inside
  split at inside
  · rfl
  · cases inside

/-- Only what begins with a bracket in its one spelling has a form that does. -/
theorem isMemory_of_formOf {text : Text} (memory : isMemory (formOf text) = true) :
    isMemory (memoryForm text) = true := by
  unfold formOf at memory
  dsimp only at memory
  split at memory
  · cases memory
  · split at memory
    · split at memory <;> cases memory
    · split at memory
      · next inside => exact isMemory_of_inBrackets? inside
      · split at memory
        · cases memory
        · split at memory
          · cases memory
          · exact memory

/-! ## Where a bracket at the beginning comes from -/

theorem opener_of_isMemory {text : Text} (memory : isMemory text = true) :
    text.head?.any isOpener = true := by
  obtain ⟨rest, rfl⟩ := isMemory_iff.1 memory
  rfl

/-- Replacing texts that begin with a bracket brings forth none. -/
theorem opener_of_replaceAny {spellings : List Text}
    (brackets : ∀ spelling ∈ spellings, spelling.head?.any isOpener = true) {new text : Text}
    (opener : (Text.replaceAny spellings new text).head?.any isOpener = true) :
    text.head?.any isOpener = true := by
  cases text with
  | nil => exact opener
  | cons c rest =>
    cases found : spellings.find? (·.isPrefixOf (c :: rest)) with
    | none => simpa [Text.replaceAny, Text.replaceMatches, Text.replaceFrom, found] using opener
    | some spelling =>
      have begins := brackets spelling (List.mem_of_find?_eq_some found)
      have leads := List.find?_some found
      cases spelling with
      | nil => cases begins
      | cons d others =>
        obtain ⟨same, -⟩ := Bool.and_eq_true_iff.1 leads
        rw [beq_iff_eq] at same
        rwa [← same]

theorem opener_of_bracketed {text : Text} (memory : isMemory (bracketed false text) = true) :
    text.head?.any isOpener = true := by
  cases text with
  | nil => cases memory
  | cons c rest =>
    rw [bracketed] at memory
    split at memory
    · next opens =>
      rw [Bool.and_eq_true, decide_eq_true_eq] at opens
      rw [opens.1]
      rfl
    · exact opener_of_isMemory memory

/-- A form in brackets comes from a text with a bracket or a parenthesis in it. -/
theorem exists_opener {text : Text} (memory : isMemory (formOf text) = true) :
    ∃ mark ∈ Text.upper text, isOpener mark = true := by
  have unifies := opener_of_bracketed (isMemory_of_formOf memory)
  have steps := opener_of_replaceAny (by decide) (opener_of_replaceAny (by decide) unifies)
  obtain ⟨mark, first, opener⟩ := (Option.any_eq_true _ _).1 steps
  exact ⟨mark, List.mem_of_mem_filter (List.mem_of_mem_head? first), opener⟩

/-! ## Operands written in brackets -/

theorem isMemory_upper {text : Text} (memory : isMemory text = true) :
    isMemory (Text.upper text) = true := by
  obtain ⟨rest, rfl⟩ := isMemory_iff.1 memory
  rfl

theorem isMemory_replaceAny (spellings : List Text) {new : Text} (brackets : isMemory new = true)
    {text : Text} (memory : isMemory text = true) :
    isMemory (Text.replaceAny spellings new text) = true := by
  obtain ⟨rest, rfl⟩ := isMemory_iff.1 memory
  obtain ⟨others, rfl⟩ := isMemory_iff.1 brackets
  rw [Text.replaceAny, Text.replaceMatches, Text.replaceFrom]
  split <;> rfl

theorem isMemory_memoryForm {text : Text} (memory : isMemory text = true) :
    isMemory (memoryForm text) = true := by
  have filtered : isMemory ((Text.upper text).filter (!Text.isBlank ·)) = true := by
    obtain ⟨rest, capitals⟩ := isMemory_iff.1 (isMemory_upper memory)
    rw [capitals]
    rfl
  have increments : isMemory (Text.replaceAny ["(HL+)", "(HLI)", "[HLI]"] "[HL+]"
      ((Text.upper text).filter (!Text.isBlank ·))) = true :=
    isMemory_replaceAny _ rfl filtered
  have decrements : isMemory (Text.replaceAny ["(HL-)", "(HLD)", "[HLD]"] "[HL-]" _) = true :=
    isMemory_replaceAny _ rfl increments
  obtain ⟨rest, unifies⟩ := isMemory_iff.1 decrements
  rw [memoryForm, unified, unifies]
  rfl

/-- What begins with a bracket or a parenthesis, and with a bracket in its one spelling, has a form
that is told from this spelling alone. -/
theorem formOf_of_isMemory {text : Text} (opens : text.head?.any isOpener = true)
    (memory : isMemory (memoryForm text) = true) :
    formOf text =
      match inBrackets? (memoryForm text) with
      | some inner => memoryReference inner
      | none => memoryForm text := by
  obtain ⟨inner, one⟩ := isMemory_iff.1 memory
  have immediate : isImmediate ('[' :: inner) = false := rfl
  have offset : isStackOffset ('[' :: inner) = false := rfl
  have others : isByteFunction (Text.upper text) = false ∧ isTarget text = false := by
    obtain ⟨c, first, opener⟩ := (Option.any_eq_true _ _).1 opens
    obtain ⟨rest, rfl⟩ := List.head?_eq_some_iff.1 first
    rw [isOpener, Bool.or_eq_true, beq_iff_eq, beq_iff_eq] at opener
    rcases opener with rfl | rfl <;> exact ⟨rfl, rfl⟩
  rw [formOf, one, others.1, immediate, offset, others.2]
  rfl

/-- What is written in brackets has a form in brackets. -/
theorem isMemory_formOf {text : Text} (memory : isMemory text = true) :
    isMemory (formOf text) = true := by
  have unifies := isMemory_memoryForm memory
  rw [formOf_of_isMemory (opener_of_isMemory memory) unifies]
  split
  · exact isMemory_memoryReference _
  · exact unifies

end Operand

/-! ## Numerals have no brackets -/

theorem Text.mem_dropAround {p : Char → Bool} {mark : Char} {text : Text} (stays : p mark = false)
    (member : mark ∈ text) : mark ∈ Text.dropAround p text := by
  have stop : ∀ other : Text, mark ∉ other.takeWhile p := fun other taken =>
    Bool.false_ne_true (stays.symm.trans (List.mem_takeWhile_imp taken))
  rw [← List.takeWhile_append_dropWhile (p := p) (l := text)] at member
  have begins := (List.mem_append.1 member).resolve_left (stop text)
  rw [← Text.dropEndWhile_append_takeWhile p (text.dropWhile p)] at begins
  exact (List.mem_append.1 begins).resolve_right fun trailing =>
    stop _ (List.mem_reverse.1 trailing)

section Opener

variable {mark : Char} (opener : isOpener mark = true)
include opener

theorem eq_of_isOpener : mark = '(' ∨ mark = '[' := by
  rwa [isOpener, Bool.or_eq_true, beq_iff_eq, beq_iff_eq] at opener

namespace Numeral

variable {base : Nat} {text : Text}

theorem digitsFrom?_of_mem (member : mark ∈ text) (needed : Bool) :
    digitsFrom? base needed text = none := by
  induction text generalizing needed with
  | nil => cases member
  | cons c rest ih =>
    rw [digitsFrom?]
    rcases List.mem_cons.1 member with rfl | later
    · rcases eq_of_isOpener opener with rfl | rfl <;> rfl
    · split
      · split
        · rfl
        · exact ih later true
      · rw [ih later false]
        cases digit? base c <;> rfl

theorem mem_dropBaseMark (member : mark ∈ text) : mark ∈ dropBaseMark base text := by
  unfold dropBaseMark
  split
  · next zero letter rest =>
    split
    · next marked =>
      have later : mark ∈ rest := by
        rcases List.mem_cons.1 member with rfl | member
        · rcases eq_of_isOpener opener with rfl | rfl <;> cases marked.1
        · rcases List.mem_cons.1 member with rfl | later
          · have letters : baseLetter base ∈ [some 'b', some 'o', some 'x', none] := by
              unfold baseLetter
              split <;> simp
            rw [marked.2] at letters
            rcases eq_of_isOpener opener with rfl | rfl <;> exact absurd letters (by decide)
          · exact later
      split
      · rcases List.mem_cons.1 later with rfl | inside
        · cases opener
        · exact inside
      · exact later
    · exact member
  · exact member

theorem unsigned?_of_mem (member : mark ∈ text) : unsigned? base text = none := by
  rw [unsigned?, digitsFrom?_of_mem opener (mem_dropBaseMark opener member)]
  rfl

/-- A text with a bracket in it is no numeral. -/
theorem read?_of_mem (member : mark ∈ text) : read? base text = none := by
  have stays : isPadding mark = false := by
    rcases eq_of_isOpener opener with rfl | rfl <;> rfl
  have inside := Text.mem_dropAround stays member
  unfold read?
  split
  · next same =>
    rw [same] at inside
    rcases List.mem_cons.1 inside with rfl | later
    · cases opener
    · rw [unsigned?_of_mem opener later]
      rfl
  · next same =>
    rw [same] at inside
    rcases List.mem_cons.1 inside with rfl | later
    · cases opener
    · rw [unsigned?_of_mem opener later]
      rfl
  · rw [unsigned?_of_mem opener inside]
    rfl

end Numeral

namespace Literal

variable {text : Text}

theorem mem_of_announced? {base : Nat} {digits : Text} (member : mark ∈ text)
    (announced : announced? text = some (base, digits)) : mark ∈ digits := by
  unfold announced? at announced
  split at announced <;> cases announced <;> rcases eq_of_isOpener opener with rfl | rfl <;>
    simpa using member

theorem mem_of_beforeSuffix? {digits : Text} (member : mark ∈ text)
    (before : beforeSuffix? text = some digits) : mark ∈ digits := by
  obtain ⟨before, -⟩ := Option.filter_eq_some_iff.1 before
  obtain ⟨rest, after, rfl⟩ := Option.map_eq_some_iff.1 before
  have whole : 'H' :: rest = text.reverse := List.isPrefixOf?_eq_some_iff_append_eq.1 after
  have inside : mark ∈ 'H' :: rest := whole ▸ List.mem_reverse.2 member
  rcases List.mem_cons.1 inside with rfl | later
  · cases opener
  · exact List.mem_reverse.2 later

/-- A text with a bracket in it is no literal. -/
theorem value?_of_mem (member : mark ∈ Text.upper (Text.trim text)) : value? text = none := by
  unfold value?
  dsimp only
  split
  · next announced => exact Numeral.read?_of_mem opener (mem_of_announced? opener member announced)
  · split
    · next before => exact Numeral.read?_of_mem opener (mem_of_beforeSuffix? opener member before)
    · exact Numeral.read?_of_mem opener member

end Literal

end Opener

namespace Operand

/-- The form of an operand that can be read. -/
theorem form_eq {operand form : Text} (read : Operand.form operand = .ok form) :
    form = formOf (Text.trim operand) := by
  rw [Operand.form] at read
  split at read
  · cases read
  · exact (Except.ok.inj read).symm

/-- What is written in brackets is an access to memory. -/
theorem isMemory_form {operand form : Text} (read : Operand.form operand = .ok form)
    (written : (Text.trim operand).head? = some '[') : isMemory form = true := by
  rw [form_eq read]
  exact isMemory_formOf (beq_iff_eq.2 written)

/-- A literal is no access to memory. -/
theorem isMemory_of_value? {operand form : Text} {value : Int}
    (read : Operand.form operand = .ok form) (literal : Literal.value? operand = some value) :
    isMemory form = false := by
  rw [Bool.eq_false_iff]
  intro memory
  rw [form_eq read] at memory
  obtain ⟨mark, member, opener⟩ := exists_opener memory
  rw [Literal.value?_of_mem opener member] at literal
  cases literal

end Operand

end Sm83Cost
