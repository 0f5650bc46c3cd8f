import Mathlib.Data.List.Infix
import Sm83Cost.Proofs.Line.Rendering

/-!
# Items of data

A data directive puts down items: strings in double quotes, and atoms, which stand
for one value each.  What is in a string does not matter, so long as no double quote
is.  An atom has no quotes and no semicolon, its brackets balance, and it has a comma
only in brackets.

An item is one operand, nothing is open at its end, and no comment begins in it
(`DataItem.isOperand_text`, `DataItem.closed`, `DataItem.uncommented`).  So items
joined by commas are split into what they were, and the bytes of a directive are
those of its items (`itemBytes_items`).
-/

namespace Sm83Cost.Line

set_option autoImplicit false

open Nesting

/-! ## Atoms -/

/-- The text stands for one value: it is not empty, has no blanks at its ends, no quotes and no
semicolon; its brackets balance, and a comma stands only in brackets. -/
structure IsAtom (text : Text) : Prop where
  nonempty : text ≠ []
  trimmed : Text.IsTrimmed text
  plain : ∀ c ∈ text, isQuote c = false ∧ c ≠ ';'
  opened : ∀ part, part <+: text → part.countP isCloser ≤ part.countP isOpener
  balanced : text.countP isCloser = text.countP isOpener
  commas : ∀ part, part ++ [','] <+: text → part.countP isCloser < part.countP isOpener

/-- Without quotes, and with no bracket closed that is not open, what is open is counted. -/
theorem foldl_step_of_unquoted {text : Text} (plain : ∀ c ∈ text, isQuote c = false)
    (opened : ∀ part, part <+: text → part.countP isCloser ≤ part.countP isOpener) :
    text.foldl step {} = { depth := text.countP isOpener - text.countP isCloser } := by
  induction text using List.reverseRecOn with
  | nil => rfl
  | append_singleton front c ih =>
    have before := ih (fun d member => plain d (List.mem_append_left [c] member))
      (fun part inside => opened part (inside.trans (List.prefix_append front [c])))
    have unquoted : isQuote c = false := plain c (by simp)
    have within := opened front (List.prefix_append front [c])
    have whole := opened (front ++ [c]) (List.prefix_refl _)
    have apart : isOpener c = true → isCloser c = false := by
      intro opener
      rw [isOpener, Bool.or_eq_true, beq_iff_eq, beq_iff_eq] at opener
      rcases opener with rfl | rfl <;> rfl
    rw [List.countP_append, List.countP_append, List.countP_singleton,
      List.countP_singleton] at whole ⊢
    rw [List.foldl_append, before, List.foldl_cons, List.foldl_nil, step]
    simp only [unquoted, Bool.false_eq_true, if_false]
    cases opener : isOpener c with
    | true =>
      simp only [apart opener, Bool.false_eq_true, if_false, if_true]
      congr 1
      omega
    | false =>
      cases closer : isCloser c with
      | true =>
        simp only [Bool.false_eq_true, if_false, if_true]
        congr 1
      | false => simp

namespace IsAtom

variable {text : Text} (atom : IsAtom text)
include atom

theorem closed : text.foldl step {} = {} := by
  rw [foldl_step_of_unquoted (fun c member => (atom.plain c member).1) atom.opened, atom.balanced,
    Nat.sub_self]

theorem uncommented : Passes atComment {} text :=
  passes_of_uncommented fun c member => (atom.plain c member).2

/-- No comma stands where nothing is open. -/
theorem passes : Passes atComma {} text := by
  cases cut : (breakAt atComma {} text).2 with
  | nil => exact cut
  | cons c rest =>
    have stops := stop_after_breakAt cut
    rw [atComma, Bool.and_eq_true, beq_iff_eq] at stops
    obtain ⟨top, rfl⟩ := stops
    have whole := breakAt_append atComma {} text
    generalize (breakAt atComma {} text).1 = front at whole top
    rw [cut] at whole
    have before : front ++ [','] <+: text := ⟨rest, by rw [← whole]; simp⟩
    have inside : front <+: text := ⟨',' :: rest, whole⟩
    have deep := atom.commas front before
    rw [foldl_step_of_unquoted
      (fun d member => (atom.plain d (inside.subset member)).1)
      (fun part within => atom.opened part (within.trans inside))] at top
    have shut := congrArg Nesting.depth (eq_start_of_isTop top)
    have none : front.countP isOpener - front.countP isCloser = 0 := shut
    omega

theorem isOperand : IsOperand text := ⟨atom.nonempty, atom.trimmed, atom.passes⟩

end IsAtom

/-! ## Strings -/

section Inside

variable {nesting : Nesting} (quoted : nesting.quote = some '"')
include quoted

theorem step_of_inside {c : Char} (other : '"' ≠ c) : nesting.step c = nesting := by
  simp only [step, quoted, if_neg (Ne.symm other)]

variable {content : Text} (plain : '"' ∉ content)
include plain

/-- Within double quotes a text opens and closes nothing. -/
theorem foldl_step_of_inside : content.foldl step nesting = nesting := by
  induction content with
  | nil => rfl
  | cons c rest ih =>
    rw [List.mem_cons, not_or] at plain
    rw [List.foldl_cons, step_of_inside quoted plain.1, ih plain.2]

/-- A walk that makes no cut in quotes makes none within double quotes. -/
theorem passes_of_inside {stop : Nesting → Char → Bool} (ignores : ∀ c, stop nesting c = false) :
    Passes stop nesting content := by
  induction content with
  | nil => rfl
  | cons c rest ih =>
    rw [List.mem_cons, not_or] at plain
    rw [passes_cons, step_of_inside quoted plain.1]
    exact ⟨ignores c, ih plain.2⟩

end Inside

/-- The text in double quotes. -/
def inQuotes (content : Text) : Text :=
  '"' :: (content ++ ['"'])

section Quoted

variable {content : Text} (plain : '"' ∉ content)
include plain

theorem closed_inQuotes : (inQuotes content).foldl step {} = {} := by
  rw [inQuotes, List.foldl_cons, List.foldl_append]
  have opens : step {} '"' = { quote := some '"' } := rfl
  rw [opens, foldl_step_of_inside rfl plain]
  rfl

theorem passes_inQuotes {stop : Nesting → Char → Bool} (begins : stop {} '"' = false)
    (ignores : ∀ c, stop { quote := some '"' } c = false) : Passes stop {} (inQuotes content) := by
  have opens : step {} '"' = { quote := some '"' } := rfl
  rw [inQuotes, passes_cons, opens, passes_append, foldl_step_of_inside rfl plain]
  exact ⟨begins, passes_of_inside rfl plain ignores, passes_cons.2 ⟨ignores '"', passes_nil⟩⟩

theorem isOperand_inQuotes : IsOperand (inQuotes content) where
  nonempty := List.cons_ne_nil _ _
  trimmed := by
    refine ⟨by rfl, ?_⟩
    rw [inQuotes, ← List.cons_append, List.getLast?_concat]
    rfl
  passes := passes_inQuotes plain rfl fun _ => rfl

end Quoted

/-! ## Items -/

/-- An item of data: a string in double quotes, or an atom. -/
inductive DataItem where
  | quoted (content : Text) (plain : '"' ∉ content)
  | atom (text : Text) (is : IsAtom text)

namespace DataItem

/-- The item as it is written. -/
def text : DataItem → Text
  | quoted content _ => inQuotes content
  | atom text _ => text

/-- The bytes that the item is as part of `DB`: one for each character of a string, and one for an
atom. -/
def size : DataItem → Nat
  | quoted content _ => content.length
  | atom _ _ => 1

variable (item : DataItem)

theorem isOperand_text : IsOperand item.text := by
  cases item with
  | quoted content plain => exact isOperand_inQuotes plain
  | atom text is => exact is.isOperand

theorem closed : item.text.foldl step {} = {} := by
  cases item with
  | quoted content plain => exact closed_inQuotes plain
  | atom text is => exact is.closed

theorem uncommented : Passes atComment {} item.text := by
  cases item with
  | quoted content plain => exact passes_inQuotes plain rfl fun _ => rfl
  | atom text is => exact is.uncommented

theorem byteCount_text : byteCount item.text = item.size := by
  cases item with
  | quoted content plain =>
    have last : (inQuotes content).getLast? = some '"' := by
      rw [inQuotes, ← List.cons_append, List.getLast?_concat]
    have length : (inQuotes content).length = content.length + 2 := by
      simp [inQuotes]
    rw [text, byteCount, length, last, if_pos ⟨by omega, rfl, rfl⟩]
    exact Nat.add_sub_cancel _ _
  | atom text is =>
    refine if_neg fun string => ?_
    have quote := (is.plain '"' (List.mem_of_mem_head? string.2.1)).1
    exact absurd quote (by decide)

end DataItem

/-! ## Items one after the other -/

theorem operandList_items (items : List DataItem) :
    OperandList (items.map DataItem.text) := by
  induction items with
  | nil => exact .nil
  | cons item rest ih => exact .cons item.isOperand_text (fun _ => item.closed) ih

/-- Nothing is open behind items that are joined by commas, and no comment begins in them. -/
theorem joined_items (items : List DataItem) :
    (Text.joined ", " (items.map DataItem.text)).foldl step {} = {} ∧
      Passes atComment {} (Text.joined ", " (items.map DataItem.text)) := by
  induction items with
  | nil => exact ⟨rfl, rfl⟩
  | cons item rest ih =>
    by_cases last : rest.map DataItem.text = []
    · rw [List.map_cons, last, joined_singleton]
      exact ⟨item.closed, item.uncommented⟩
    · have comma : (", ".toList).foldl step {} = {} := rfl
      have plain : Passes atComment {} ", ".toList := rfl
      rw [List.map_cons, joined_cons_of_ne_nil _ _ last, List.foldl_append, List.foldl_append,
        passes_append, passes_append, List.foldl_append, item.closed, comma]
      exact ⟨ih.1, ⟨item.uncommented, plain⟩, ih.2⟩

/-- The data directives that have items of a fixed size. -/
inductive DataDirective where
  | db
  | dw
  | dl

namespace DataDirective

/-- The directive in small letters. -/
def keyword : DataDirective → Text
  | db => "db"
  | dw => "dw"
  | dl => "dl"

theorem small_keyword (directive : DataDirective) :
    directive.keyword.all Char.isLower = true := by
  cases directive <;> decide

/-- The directive in capitals. -/
def name (directive : DataDirective) : Text :=
  directive.keyword.map Char.toUpper

/-- The bytes that the directive puts down: those of its items, or two or four for each of them. -/
def size : DataDirective → List DataItem → Nat
  | db, items => (items.map DataItem.size).sum
  | dw, items => 2 * items.length
  | dl, items => 4 * items.length

end DataDirective

/-- **The bytes of a data directive are those of its items.** -/
theorem itemBytes_items (directive : DataDirective) (items : List DataItem) :
    itemBytes directive.name (items.map DataItem.text) = .ok (directive.size items) := by
  have counts : (items.map DataItem.text).map byteCount = items.map DataItem.size := by
    rw [List.map_map]
    exact List.map_congr_left fun item _ => item.byteCount_text
  cases items with
  | nil => cases directive <;> rfl
  | cons item rest =>
    cases directive with
    | db => exact congrArg (fun sizes => Except.ok (List.sum sizes)) counts
    | dw =>
      have words : itemBytes "DW" ((item :: rest).map DataItem.text) =
          .ok (((item :: rest).map DataItem.text).length * 2) := rfl
      rw [List.length_map, Nat.mul_comm] at words
      exact words
    | dl =>
      have longs : itemBytes "DL" ((item :: rest).map DataItem.text) =
          .ok (((item :: rest).map DataItem.text).length * 4) := rfl
      rw [List.length_map, Nat.mul_comm] at longs
      exact longs

end Sm83Cost.Line
