import Sm83Cost.Cost.Session
import Sm83Cost.Proofs.Line.Rendering

/-!
# Labels in front of lines

A label says where a line is, not what it does.  So a line costs the same with a
label in front of it as without one, in every session, and it fails with the same
fault if it does (`lineCost_labelled`).  Nothing of the result but the text and the
label of the line tells the two apart.

The label shifts what is behind it, and the comment, the mnemonic and the operands
are found all the same: it opens neither a quote nor a bracket, and the blank behind
it ends it.  The line must not have a label of its own, since only the first label
of a line is one.
-/

namespace Sm83Cost

set_option autoImplicit false

open Line.Nesting

namespace Line

/-- The text writes the label: with a colon or two behind it, or without any if it is local. -/
inductive WritesLabel : (label written : Text) → Prop where
  | colon {label : Text} (is : IsLabel label) : WritesLabel label (label ++ [':'])
  | colons {label : Text} (is : IsLabel label) : WritesLabel label (label ++ [':', ':'])
  | bare {name : Text} (some : name ≠ []) (letters : ∀ c ∈ name, inLocalName c = true) :
      WritesLabel ('.' :: name) ('.' :: name)

namespace WritesLabel

variable {label written : Text} (writes : WritesLabel label written)
include writes

theorem isLabel : IsLabel label := by
  cases writes with
  | colon is => exact is
  | colons is => exact is
  | bare some letters => exact .point some letters

/-- A label is read as such, and nothing is left of it. -/
theorem splitLabel?_eq : splitLabel? written = some (label, []) := by
  cases writes with
  | colon is => exact is.splitLabel?_colon []
  | colons is => exact is.splitLabel?_colon [':']
  | @bare name some letters =>
    rw [splitLabel?_point, List.takeWhile_eq_self_iff.2 letters,
      List.dropWhile_eq_nil_iff.2 letters, if_neg (by simpa using some)]
    rfl

theorem exists_colons : ∃ colons, (∀ c ∈ colons, c = ':') ∧ written = label ++ colons := by
  obtain ⟨-, colons, all, whole⟩ := splitLabel?_eq_some writes.splitLabel?_eq
  exact ⟨colons, all, by rwa [List.append_nil] at whole⟩

/-- A written label opens and closes nothing, no comment begins in it, and it has no blanks. -/
theorem plain : ∀ c ∈ written, (isInert c = true ∧ c ≠ ';') ∧ Text.isBlank c = false := by
  obtain ⟨colons, all, rfl⟩ := writes.exists_colons
  have is := writes.isLabel
  refine List.forall_mem_append.2 ⟨fun c member => ⟨is.inert c member, is.full c member⟩, ?_⟩
  intro c member
  rw [all c member]
  decide

theorem isTrimmed : Text.IsTrimmed written :=
  Text.isTrimmed_of_forall fun c member => (writes.plain c member).2

theorem ne_nil : written ≠ [] := by
  rintro rfl
  cases writes.splitLabel?_eq

end WritesLabel

/-- What opens and closes nothing may stand in front of a line, and the comment begins where it
did. -/
theorem cutComment_append {front : Text} (inert : ∀ c ∈ front, isInert c = true ∧ c ≠ ';')
    (text : Text) :
    cutComment (front ++ text) = (front ++ (cutComment text).1, (cutComment text).2) := by
  have passes : Passes atComment {} front :=
    passes_of_uncommented fun c member => (inert c member).2
  have still : front.foldl step {} = {} :=
    foldl_step_of_isInert proper_start fun c member => (inert c member).1
  have cut := breakAt_append_of_whole passes text
  rwa [still] at cut

section Labelled

variable {label written : Text} (writes : WritesLabel label written) (text : Text)
include writes

theorem cutComment_labelled :
    cutComment (written ++ ' ' :: text) =
      (written ++ ' ' :: (cutComment text).1, (cutComment text).2) := by
  have space : ∀ c ∈ [' '], isInert c = true ∧ c ≠ ';' := Text.forall_mem_of_all (by decide)
  have front := List.forall_mem_append.2 ⟨fun c member => (writes.plain c member).1, space⟩
  have cut := cutComment_append front text
  rwa [List.append_assoc, List.append_assoc] at cut

theorem labelAndCode_labelled (unlabelled : splitLabel? (codeOf text) = none) :
    labelAndCode (codeOf (written ++ ' ' :: text)) =
      (some label, (labelAndCode (codeOf text)).2) := by
  have nothing : ∀ c ∈ ([] : Text), Text.isBlank c = true := nofun
  obtain ⟨kept, trail, blank, whole, trimmed⟩ :=
    Text.exists_trim_append nothing writes.isTrimmed writes.ne_nil (' ' :: codePart text)
  have code : codeOf (written ++ ' ' :: text) = written ++ kept := by
    rw [codeOf, codePart, cutComment_labelled writes]
    exact trimmed
  have apart : kept.head?.all Text.isBlank = true := by
    cases kept with
    | nil => rfl
    | cons c rest =>
      obtain rfl := (List.cons.inj whole).1
      rfl
  have rest : Text.trim kept = codeOf text := by
    rw [← Text.trim_append_blanks blank kept, ← whole, Text.trim_cons_of_isBlank (by decide)]
    rfl
  have split : splitLabel? (written ++ kept) = some (label, kept) := by
    rw [splitLabel?_append apart, writes.splitLabel?_eq]
    rfl
  have bare : labelAndCode (codeOf text) = (none, codeOf text) := by
    rw [labelAndCode, unlabelled]
  rw [code, bare, labelAndCode, split]
  exact congrArg (some label, ·) rest

/-- A line with a label in front of it is the same line with that label. -/
theorem parse_labelled (unlabelled : splitLabel? (codeOf text) = none) (isMacro : Text → Bool)
    (number : Int) :
    parse isMacro number (written ++ ' ' :: text) =
      (parse isMacro number text).map fun line =>
        { line with raw := written ++ ' ' :: text, label := some label } := by
  have comment : commentPart? (written ++ ' ' :: text) = commentPart? text := by
    rw [commentPart?, commentPart?, cutComment_labelled writes]
  rw [parse_eq, parse_eq, labelAndCode_labelled writes text unlabelled, comment]
  cases operationOf isMacro (labelAndCode (codeOf text)).2 <;> rfl

end Labelled

end Line

namespace Session

variable (session : Session)

/-- The text and the label of a line do not matter to the cost of its operation. -/
theorem costOf_labelled (line : Line) (raw : Text) (label : Option Text) (operation : Operation) :
    session.costOf { line with raw, label } operation =
      (session.costOf line operation).map fun cost =>
        { cost with line := { cost.line with raw, label } } := by
  cases call : operation.role with
  | data bytes => simp only [costOf, call, Except.map]
  | directive => simp only [costOf, call, Except.map]
  | predef kind => simp only [costOf, call, Except.map]
  | macroCall =>
    simp only [costOf, call]
    cases session.scanner.macros.find? operation.mnemonic with
    | none => rfl
    | some definition =>
      dsimp only
      cases Fault.requireCycles (if session.config.assumeBranchTaken = true then
        definition.cycles.most? else definition.cycles.fewest?) <;> rfl
  | instruction =>
    simp only [costOf, call]
    cases Fault.ofNumeral (session.table.lookup operation.mnemonic operation.operands) with
    | error fault => rfl
    | ok found =>
      cases found with
      | none => rfl
      | some entry =>
        show (Fault.requireCycles _ >>= fun _ => _) = (Fault.requireCycles _ >>= fun _ => _).map _
        cases Fault.requireCycles (entry.cycles.select? session.config.assumeBranchTaken) <;> rfl

theorem resolve_labelled (line : Line) (raw : Text) (label : Option Text) :
    session.resolve { line with raw, label } =
      (session.resolve line).map fun cost => { cost with line := { cost.line with raw, label } } := by
  rw [resolve, resolve]
  cases held : line.operation with
  | none => simp only [Except.map, held]
  | some operation =>
    have same := session.costOf_labelled line raw label operation
    rw [held] at same
    exact same

/-- **A label does not change what its line costs.**  This holds of every label, with a colon or
two or as a local one without, in front of every line that has no label of its own, and in every
session: the results are the same but for the text and the label of the line, and so are the
faults. -/
theorem lineCost_labelled {label written text : Text} (writes : Line.WritesLabel label written)
    (unlabelled : Line.splitLabel? (Line.codeOf text) = none) (number : Int) :
    session.lineCost (written ++ ' ' :: text) number =
      (session.lineCost text number).map fun cost =>
        { cost with
            line := { cost.line with raw := written ++ ' ' :: text, label := some label } } := by
  rw [lineCost, lineCost, Scanner.parseLine, Scanner.parseLine,
    Line.parse_labelled writes text unlabelled]
  cases Line.parse session.scanner.recognises number text with
  | error cause => rfl
  | ok line => exact session.resolve_labelled line _ _

/-- A local label without a colon, in front of data with a semicolon in quotes and a comment. -/
theorem lineCost_labelled_data :
    let text : Text := "db 1, \"a:;b\" ; c"
    ∃ cost, Session.lineCost {} text 3 = .ok cost ∧ cost.own.bytes = 5 ∧
      Session.lineCost {} (".l.1".toList ++ ' ' :: text) 3 =
        .ok { cost with
                line := { cost.line with
                            raw := ".l.1 db 1, \"a:;b\" ; c", label := some ".l.1" } } := by
  intro text
  have data : Session.lineCost {} text 3 =
      .ok { line := { number := 3, raw := text,
                      operation := some ⟨"DB", ["1", "\"a:;b\""], .data 5⟩, comment := some "c" },
            known := true, own := { bytes := 5 }, isData := true } := by
    decide +kernel
  have writes : Line.WritesLabel ".l.1" ".l.1" :=
    .bare (List.cons_ne_nil 'l' _) (Text.forall_mem_of_all (by decide))
  have unlabelled : Line.splitLabel? (Line.codeOf text) = none := by decide +kernel
  refine ⟨_, data, rfl, ?_⟩
  rw [lineCost_labelled {} writes unlabelled, data]
  rfl

/-- Of two labels only the first is one. -/
example : (Session.lineCost {} "a: nop" 0).map LineCost.known = .ok true ∧
    (Session.lineCost {} "b: a: nop" 0).map LineCost.known = .ok false := by
  decide +kernel

end Session

end Sm83Cost
