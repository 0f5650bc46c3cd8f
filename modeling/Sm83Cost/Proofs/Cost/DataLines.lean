import Sm83Cost.Cost.Session
import Sm83Cost.Proofs.Line.DataItems

/-!
# Lines of data

A line of data is a data directive in any case and its items, with a label before it
and a comment behind it if need be.  Commas, semicolons and brackets in its strings
are looked at three times, when the comment, the mnemonic and the operands are cut
off, and never taken for marks.  So the line has its items for operands, and it costs
the bytes of its items and no cycles (`lineCost_dataLine`).
-/

namespace Sm83Cost

set_option autoImplicit false

namespace Line

open Nesting

/-- A label as it stands in front of code. -/
def labelPart (label : Option Text) : Text :=
  label.elim [] (· ++ [':', ' '])

/-- A directive with its items, commas between them. -/
def dataCode (written : Text) (items : List DataItem) : Text :=
  written ++ ' ' :: Text.joined ", " (items.map DataItem.text)

/-- A line of data, with a label in front and a comment behind it. -/
def dataLine (label : Option Text) (written : Text) (items : List DataItem)
    (comment : Option Text) : Text :=
  labelPart label ++ dataCode written items ++
    comment.elim [] fun remark => ' ' :: ';' :: remark

/-! ## The code of a line of data -/

section Code

variable {directive : DataDirective} {written : Text}
  (spelled : Text.upper written = directive.name)
include spelled

/-- The directive is the first word of its code. -/
theorem leads_of_directive {tail : Text} (apart : tail.head?.all Text.isBlank = true) :
    Leads directive.keyword written tail := by
  have ordinary : ∀ c ∈ directive.keyword, c ∈ Text.ordinaryLetters := by
    cases directive <;> exact Text.forall_mem_of_all (by decide)
  exact ⟨(Text.upper_eq_iff ordinary written).1 spelled, apart⟩

theorem letters_of_directive : ∀ c ∈ written, Text.isLetter c = true := by
  have leads : Leads directive.keyword written [] := leads_of_directive spelled rfl
  exact leads.letters directive.small_keyword

theorem directive_ne_nil : written ≠ [] := by
  rintro rfl
  cases directive <;> cases spelled

/-- Nothing is open behind the code, and no comment begins in it. -/
theorem uncommented_dataCode (items : List DataItem) :
    (dataCode written items).foldl step {} = {} ∧ Passes atComment {} (dataCode written items) := by
  obtain ⟨closed, uncommented⟩ := joined_items items
  have letters := letters_of_directive spelled
  have shut := foldl_step_of_letters letters
  have plain : Passes atComment {} written := by
    refine passes_of_uncommented fun c member => ?_
    rintro rfl
    exact absurd (letters ';' member) (by decide)
  have blank : step {} ' ' = {} := rfl
  rw [dataCode, List.foldl_append, shut, passes_append, shut, List.foldl_cons, passes_cons, blank]
  exact ⟨closed, plain, rfl, uncommented⟩

variable {items : List DataItem} (nonempty : items ≠ [])
include nonempty

theorem isTrimmed_dataCode : Text.IsTrimmed (dataCode written items) := by
  have list := operandList_items items
  have letters := letters_of_directive spelled
  have listed : items.map DataItem.text ≠ [] := by simpa using nonempty
  have full := Text.isTrimmed_of_forall fun c member =>
    (Text.plain_of_isLetter (letters c member)).2.1
  exact full.append (directive_ne_nil spelled) list.joined_trimmed (list.joined_ne_nil listed)
    [' ']

/-- The code is read as the directive with its items. -/
theorem operationOf_dataCode (isMacro : Text → Bool) :
    operationOf isMacro (dataCode written items) =
      .ok (some
        ⟨directive.name, items.map DataItem.text, .data (directive.size items)⟩) := by
  have trimmed := isTrimmed_dataCode spelled nonempty
  have list := operandList_items items
  have empty : (dataCode written items).isEmpty = false := by
    simp [dataCode]
  have split : splitMnemonic (dataCode written items) =
      (written, Text.joined ", " (items.map DataItem.text)) := by
    rw [dataCode] at trimmed ⊢
    rw [(leads_of_directive spelled rfl).splitMnemonic directive.small_keyword trimmed,
      Text.trim_cons_of_isBlank (by decide), Text.trim_of_isTrimmed list.joined_trimmed]
  have data : dataDirectives.contains directive.name = true := by
    cases directive <;> decide
  rw [operationOf, empty, split]
  simp only [Bool.false_eq_true, if_false, splitOperands_joined list, spelled, roleOf, data,
    if_true, itemBytes_items]
  rfl

/-- Behind a label or not, the code is what is taken apart. -/
theorem labelAndCode_dataCode {label : Option Text} (labels : ∀ name ∈ label, IsLabel name) :
    labelAndCode (labelPart label ++ dataCode written items) = (label, dataCode written items) := by
  cases label with
  | none =>
    have named : directive.keyword ≠ [] := by cases directive <;> decide
    exact (leads_of_directive spelled rfl).labelAndCode directive.small_keyword named
  | some name =>
    have is : IsLabel name := labels name rfl
    have apart : (' ' :: dataCode written items).head?.all Text.isBlank = true := rfl
    have whole : name ++ [':', ' '] ++ dataCode written items =
        name ++ ':' :: ' ' :: dataCode written items := by simp
    rw [labelPart, Option.elim_some, whole, labelAndCode, is.splitLabel? apart]
    dsimp only
    rw [Text.trim_cons_of_isBlank (by decide),
      Text.trim_of_isTrimmed (isTrimmed_dataCode spelled nonempty)]

end Code

/-! ## The whole line -/

/-- Nothing is open behind a label with a colon and a blank, and no comment begins in it. -/
theorem uncommented_label {label : Option Text} (labels : ∀ name ∈ label, IsLabel name) :
    (labelPart label).foldl step {} = {} ∧ Passes atComment {} (labelPart label) := by
  cases label with
  | none => exact ⟨rfl, rfl⟩
  | some name =>
    have inert : ∀ c ∈ name ++ [':', ' '], isInert c = true ∧ c ≠ ';' := by
      have marks : ∀ c ∈ [':', ' '], isInert c = true ∧ c ≠ ';' :=
        Text.forall_mem_of_all (by decide)
      intro c member
      exact (List.mem_append.1 member).elim ((labels name rfl).inert c) (marks c)
    refine ⟨foldl_step_of_isInert proper_start fun c member => (inert c member).1, ?_⟩
    exact passes_of_uncommented fun c member => (inert c member).2

/-- A text without a comment, with nothing open at its end, is all code. -/
theorem codeOf_of_uncommented {text : Text} (passes : Passes atComment {} text)
    (trimmed : Text.IsTrimmed text) : codeOf text = text := by
  rw [codeOf, codePart, cutComment_of_passes passes, Text.trim_of_isTrimmed trimmed]

/-- What is written behind a semicolon is the comment. -/
theorem commentPart?_append {text : Text} (passes : Passes atComment {} text)
    (closed : text.foldl step {} = {}) (remark : Text) :
    commentPart? (text ++ ' ' :: ';' :: remark) = some (Text.trim remark) := by
  have blank : (text ++ [' ']).foldl step {} = {} := by
    rw [List.foldl_append, closed]
    rfl
  have plain : Passes atComment {} (text ++ [' ']) := by
    rw [passes_append, closed]
    exact ⟨passes, rfl⟩
  have stops : atComment ((text ++ [' ']).foldl step {}) ';' = true := by
    rw [blank]
    rfl
  have cut : cutComment (text ++ [' '] ++ ';' :: remark) = (text ++ [' '], ';' :: remark) :=
    breakAt_append_of_stop plain stops remark
  have whole : text ++ ' ' :: ';' :: remark = text ++ [' '] ++ ';' :: remark := by simp
  rw [commentPart?, whole, cut]

section Line

variable {directive : DataDirective} {written : Text}
  (spelled : Text.upper written = directive.name) {items : List DataItem} (nonempty : items ≠ [])
  {label : Option Text} (labels : ∀ name ∈ label, IsLabel name)
include spelled nonempty labels

theorem isTrimmed_labelled :
    Text.IsTrimmed (labelPart label ++ dataCode written items) := by
  have code := isTrimmed_dataCode spelled nonempty
  cases label with
  | none => exact code
  | some name =>
    have named : name ++ [':'] ≠ [] := by simp
    have more : dataCode written items ≠ [] := by simp [dataCode]
    have whole := (labels name rfl).trimmed.append named code more [' ']
    simpa [labelPart] using whole

/-- **A line of data is taken apart into its label, its items and its comment**, whatever macros are
known. -/
theorem parse_dataLine (isMacro : Text → Bool) (number : Int) (comment : Option Text) :
    parse isMacro number (dataLine label written items comment) =
      .ok { number, raw := dataLine label written items comment, label,
            operation := some
              ⟨directive.name, items.map DataItem.text, .data (directive.size items)⟩,
            comment := comment.map Text.trim } := by
  obtain ⟨labelClosed, labelPlain⟩ := uncommented_label labels
  obtain ⟨codeClosed, codePlain⟩ := uncommented_dataCode spelled items
  have closed : (labelPart label ++ dataCode written items).foldl step {} = {} := by
    rw [List.foldl_append, labelClosed, codeClosed]
  have passes : Passes atComment {} (labelPart label ++ dataCode written items) := by
    rw [passes_append, labelClosed]
    exact ⟨labelPlain, codePlain⟩
  have all := codeOf_of_uncommented passes (isTrimmed_labelled spelled nonempty labels)
  have parts : codeOf (dataLine label written items comment) =
        labelPart label ++ dataCode written items ∧
      commentPart? (dataLine label written items comment) = comment.map Text.trim := by
    cases comment with
    | none =>
      rw [dataLine, Option.elim_none, List.append_nil]
      exact ⟨all, by rw [commentPart?, cutComment_of_passes passes]; rfl⟩
    | some remark =>
      have takes : takesRemark (labelPart label ++ dataCode written items) = true := by
        rw [takesRemark, closed]
        exact Bool.or_true _
      rw [dataLine, Option.elim_some]
      exact ⟨(codeOf_append takes remark).trans all, commentPart?_append passes closed remark⟩
  rw [parse_eq, parts.1, parts.2, labelAndCode_dataCode spelled nonempty labels,
    operationOf_dataCode spelled nonempty]
  rfl

end Line

end Line

namespace Session

open Line

/-- **Data directives are sized from their items.**  A line has a data directive in any case with
items behind it, a label in front of it or none, and any comment or none.  With any macros it is
taken apart into the items as they are written, and in any session it costs the bytes of its items
and no cycles. -/
theorem lineCost_dataLine {directive : DataDirective} {written : Text}
    (spelled : Text.upper written = directive.name) {items : List DataItem} (nonempty : items ≠ [])
    {label : Option Text} (labels : ∀ name ∈ label, IsLabel name) (comment : Option Text)
    (number : Int) :
    (∀ isMacro, ∃ line, parse isMacro number (dataLine label written items comment) = .ok line ∧
      line.label = label ∧ line.comment = comment.map Text.trim ∧
      line.operation = some
        ⟨directive.name, items.map DataItem.text, .data (directive.size items)⟩) ∧
    ∀ session : Session, ∃ cost,
      session.lineCost (dataLine label written items comment) number = .ok cost ∧
      cost.known = true ∧ cost.isData = true ∧
      cost.own = { bytes := directive.size items, cycles := 0 } := by
  have parsed := fun isMacro => parse_dataLine spelled nonempty labels isMacro number comment
  constructor
  · intro isMacro
    exact ⟨_, parsed isMacro, rfl, rfl, rfl⟩
  · intro session
    rw [lineCost, Scanner.parseLine, parsed]
    exact ⟨_, rfl, rfl, rfl, rfl⟩

/-- The marks in a string and the comma of a call are not taken for those of the line. -/
theorem lineCost_dataLine_string_and_call :
    ∃ items : List DataItem,
      items.map DataItem.text = ["\"a;b,(['\"".toList, "BANK(Foo, 1)".toList] ∧
      ∃ cost, ({} : Session).lineCost
          (dataLine (some "Table") "Db" items (some "two items, \"one\" string")) 4 = .ok cost ∧
        cost.own = { bytes := 8, cycles := 0 } := by
  have call : IsAtom "BANK(Foo, 1)" := by
    have within : ∀ part ∈ ("BANK(Foo, 1)" : Text).inits,
        part.countP Nesting.isCloser ≤ part.countP Nesting.isOpener ∧
          (part ++ [','] ∈ ("BANK(Foo, 1)" : Text).inits →
            part.countP Nesting.isCloser < part.countP Nesting.isOpener) := by
      decide
    refine ⟨by decide, ⟨by decide, by decide⟩, Text.forall_mem_of_all (by decide), ?_, rfl, ?_⟩
    · exact fun part inside => (within part ((List.mem_inits _ _).2 inside)).1
    · intro part comma
      have inside := (List.prefix_append part [',']).trans comma
      exact (within part ((List.mem_inits _ _).2 inside)).2 ((List.mem_inits _ _).2 comma)
  have labels : ∀ name ∈ some ("Table" : Text), IsLabel name := by
    rintro name ⟨⟩
    exact .word (by decide) (Text.forall_mem_of_all (by decide))
  have spelled : Text.upper "Db" = DataDirective.db.name := by decide
  obtain ⟨cost, measured, -, -, own⟩ := (lineCost_dataLine spelled
    (List.cons_ne_nil (.quoted "a;b,(['" (by decide)) [.atom "BANK(Foo, 1)" call]) labels
    (some "two items, \"one\" string") 4).2 {}
  exact ⟨_, rfl, cost, measured, own⟩

end Session

end Sm83Cost
