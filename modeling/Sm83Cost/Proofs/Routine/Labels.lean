import Mathlib.Data.List.DropRight
import Mathlib.Logic.Relation
import Sm83Cost.Proofs.Cost.Definitions

/-!
# Documented labels

A routine is a global label outside of macros together with what the comments
above it say.  Both can be read off a file by itself, line by line: whether a
macro is open behind some lines (`leavesOpen`), and the comments on the lines
without code that come last (`commentsAbove`).  What is pending in a scan always
agrees with them (`LineStep.tracks`).

`DocumentedAt` says that a routine is such a label of a file, and
`DocumentedFrom` that it is one of a file or of one that the file includes.
-/

namespace Sm83Cost

set_option autoImplicit false

namespace Line

/-! ## Lines without code -/

/-- A line has code when it defines or does something. -/
theorem hasCode_of_parse {isMacro : Text → Bool} {number : Int} {text : Text} {line : Line}
    (parsed : parse isMacro number text = .ok line) :
    line.hasCode = !(codeOf text).isEmpty := by
  obtain ⟨operation, read, rfl⟩ := parse_eq_ok.1 parsed
  rw [← codeOf] at read
  rw [hasCode, ← codeOf]
  cases operation with
  | none =>
    have behind := eq_nil_of_operationOf read
    rw [labelAndCode] at behind ⊢
    cases split : splitLabel? (codeOf text) with
    | none =>
      rw [split] at behind
      have empty : codeOf text = [] := behind
      rw [empty]
      rfl
    | some parts =>
      cases code : codeOf text with
      | nil =>
        rw [code] at split
        cases split
      | cons c rest => rfl
  | some operation =>
    cases code : codeOf text with
    | nil =>
      rw [code] at read
      cases read
    | cons c rest => exact Bool.or_true _

theorem comment_of_parse {isMacro : Text → Bool} {number : Int} {text : Text} {line : Line}
    (parsed : parse isMacro number text = .ok line) : line.comment = commentPart? text := by
  obtain ⟨operation, -, rfl⟩ := parse_eq_ok.1 parsed
  rfl

end Line

namespace Scan

open Line (codeOf)

/-- There is no landmark on a line without code. -/
theorem landmark?_of_codeless {text : Text} (codeless : codeOf text = []) :
    landmark? (Text.trim text) = none := by
  obtain ⟨remark, follows, whole⟩ := Line.trim_eq_codeOf_append text
  have trimmed := Text.isTrimmed_trim text
  rw [codeless, List.nil_append] at whole
  rw [whole] at trimmed ⊢
  cases follows with
  | none => rfl
  | @comment gap blank rest =>
    cases gap with
    | nil => rfl
    | cons c gap =>
      have begins : Text.isBlank c = false := trimmed.1
      rw [blank c List.mem_cons_self] at begins
      cases begins

/-- A line that includes a file has no label. -/
theorem label?_of_inclusion? {line target : Text} (included : inclusion? line = some target) :
    label? line = none := by
  rw [← List.append_nil line] at included
  obtain ⟨word, rest, rfl, leads⟩ := leads_of_inclusion? .none included
  have small : ("include" : Text).all Char.isLower = true := by decide
  have colon : ∀ more, rest ≠ ':' :: more := by
    rintro more rfl
    exact absurd leads.apart (show ¬ Text.isBlank ':' = true by decide)
  rw [label?, leadingWord?, leads.dropWhile_isWord small]
  cases nonempty? ((word ++ rest).takeWhile Text.isWord) with
  | none => rfl
  | some name =>
    simp only [Option.map_some, Option.bind_some]
    split
    · exact absurd rfl (colon _)
    · exact absurd rfl (colon _)
    · rfl

/-- A label is a landmark where no macro begins. -/
theorem landmark?_eq_label_iff {text name : Text} :
    landmark? (Text.trim text) = some (.label name) ↔
      header? (codeOf text) = none ∧ label? (Text.trim text) = some name := by
  rw [← header?_trim, landmark?]
  cases included : inclusion? (Text.trim text) with
  | some target =>
    rw [label?_of_inclusion? included]
    simp
  | none => cases header? (Text.trim text) <;> cases label? (Text.trim text) <;> simp

/-! ## What stands above a line -/

/-- A macro is open behind a line; `within` tells that one is open before it. -/
def staysOpen (within : Bool) (text : Text) : Bool :=
  if within then !isMacroEnd (codeOf text) else (header? (codeOf text)).isSome

/-- A macro is open behind lines: one has begun, and has not ended since. -/
def leavesOpen (above : List Text) : Bool :=
  above.foldl staysOpen false

theorem leavesOpen_append (above : List Text) (text : Text) :
    leavesOpen (above ++ [text]) = staysOpen (leavesOpen above) text := by
  rw [leavesOpen, List.foldl_append]
  rfl

/-- The comments on the lines without code that come last. -/
def commentsAbove (above : List Text) : List Text :=
  (above.rtakeWhile fun text => (codeOf text).isEmpty).filterMap Line.commentPart?

theorem commentsAbove_append (above : List Text) (text : Text) :
    commentsAbove (above ++ [text]) =
      if (codeOf text).isEmpty then commentsAbove above ++ (Line.commentPart? text).toList
      else [] := by
  rw [commentsAbove, List.rtakeWhile_concat]
  split
  · rw [List.filterMap_append, commentsAbove, List.filterMap_cons, List.filterMap_nil]
    cases Line.commentPart? text <;> rfl
  · rfl

/-- What is pending in a scan agrees with the lines above. -/
structure Tracks (above : List Text) (pending : Pending) : Prop where
  isOpen : pending.isOpen = leavesOpen above
  comments : ∀ comments, pending = .comments comments → comments = commentsAbove above

theorem tracks_nil : Tracks [] (.comments []) where
  isOpen := rfl
  comments := by
    rintro comments same
    cases same
    rfl

/-- A line without a landmark keeps the comments above it, if it has no code, and adds its own. -/
theorem pendingAfter_of_parse {isMacro : Text → Bool} {number : Int} {text : Text} {line : Line}
    (parsed : Line.parse isMacro number text = .ok line) (comments : List Text) :
    pendingAfter comments line =
      .comments (if (codeOf text).isEmpty then comments ++ (Line.commentPart? text).toList
        else []) := by
  rw [pendingAfter, Line.hasCode_of_parse parsed, Line.comment_of_parse parsed]
  cases (codeOf text).isEmpty <;> rfl

/-- One more line keeps what is pending in agreement with the lines. -/
theorem LineStep.tracks {tree : FileTree} {scan : LineScan} {directory : Option Path}
    {file : Option Text} {number : Nat} {text : Text} {pending next : Pending}
    {progress after : Progress} {above : List Text} (tracked : Tracks above pending)
    (step : LineStep tree scan directory file number text pending progress next after) :
    Tracks (above ++ [text]) next where
  isOpen := by rw [step.isOpen_eq, leavesOpen_append, tracked.isOpen, staysOpen]
  comments := by
    -- Every landmark, and the end of a macro, is on a line with code.
    have marked : ∀ {mark}, landmark? (Text.trim text) = some mark → codeOf text ≠ [] := by
      intro mark found codeless
      rw [landmark?_of_codeless codeless] at found
      cases found
    have dropped : codeOf text ≠ [] → commentsAbove (above ++ [text]) = [] := by
      intro code
      rw [commentsAbove_append, if_neg (by simpa using code)]
    intro comments same
    cases step with
    | closes ends closed =>
      cases same
      rw [dropped]
      intro codeless
      rw [isMacroEnd_trim, codeless] at ends
      cases ends
    | collects goesOn => cases same
    | ignores mark nowhere =>
      cases same
      rw [dropped (marked mark)]
    | includes mark given inclusion =>
      cases same
      rw [dropped (marked mark)]
    | begins mark => cases same
    | labels mark =>
      cases same
      rw [dropped (marked mark)]
    | @passes earlier progress line mark parsed =>
      rw [pendingAfter_of_parse parsed, tracked.comments earlier rfl] at same
      rw [commentsAbove_append]
      exact (Pending.comments.inj same).symm

/-! ## Documented labels -/

/-- The line with this number begins with a global label of this name and is outside of macros: none
is open before it, and it begins none. -/
def GlobalLabel (lines : List Text) (index : Nat) (name : Text) : Prop :=
  ∃ text, lines[index]? = some text ∧ label? (Text.trim text) = some name ∧
    leavesOpen (lines.take index) = false ∧ leavesOpen (lines.take (index + 1)) = false

/-- What the comments above a line say. -/
def summaryAbove (lines : List Text) (index : Nat) : Comments.Summary :=
  Comments.summarise (commentsAbove (lines.take index))

theorem globalLabel_iff {above rest : List Text} {text name : Text} :
    GlobalLabel (above ++ text :: rest) above.length name ↔
      leavesOpen above = false ∧ landmark? (Text.trim text) = some (.label name) := by
  have here : (above ++ text :: rest)[above.length]? = some text := by simp
  have before : (above ++ text :: rest).take above.length = above := by simp
  have behind : (above ++ text :: rest).take (above.length + 1) = above ++ [text] := by
    rw [List.take_length_add_append]
    rfl
  rw [GlobalLabel, here, before, behind, leavesOpen_append, landmark?_eq_label_iff]
  constructor
  · rintro ⟨other, same, labelled, outside, begun⟩
    cases same
    rw [outside, staysOpen, if_neg Bool.false_ne_true, Option.isSome_eq_false_iff,
      Option.isNone_iff_eq_none] at begun
    exact ⟨outside, begun, labelled⟩
  · rintro ⟨outside, begun, labelled⟩
    refine ⟨text, rfl, labelled, outside, ?_⟩
    rw [outside, staysOpen, begun]
    rfl

/-- The routine is a label on this line of the file at this path, with what the comments above it
say. -/
structure DocumentedAt (path : Path) (lines : List Text) (index : Nat) (routine : Routine) :
    Prop where
  label : GlobalLabel lines index routine.name
  file : routine.file = some path.text
  line : routine.line = index
  arguments : routine.arguments = (summaryAbove lines index).arguments
  description : routine.description = (summaryAbove lines index).description

/-- The file at the first path includes the one at the second. -/
def Includes (tree : FileTree) (path other : Path) : Prop :=
  ∃ lines target, tree.readLines path = .ok lines ∧ target ∈ inclusions lines ∧
    resolve? tree path.parent target = some other

/-- The routine is documented in the file at this path, or in one that is reached from it by
included files. -/
def DocumentedFrom (tree : FileTree) (path : Path) (routine : Routine) : Prop :=
  ∃ source lines index, Relation.ReflTransGen (Includes tree) path source ∧
    tree.readLines source = .ok lines ∧ DocumentedAt source lines index routine

theorem DocumentedFrom.head {tree : FileTree} {path other : Path} {routine : Routine}
    (found : DocumentedFrom tree other routine) (included : Includes tree path other) :
    DocumentedFrom tree path routine := by
  obtain ⟨source, lines, index, reached, read, documented⟩ := found
  exact ⟨source, lines, index, .head included reached, read, documented⟩

/-- The files that are included behind a line are among those from the line on. -/
theorem inclusionsFrom_subset (within : Bool) (text : Text) (rest : List Text) :
    inclusionsFrom (staysOpen within text) rest ⊆ inclusionsFrom within (text :: rest) := by
  cases within with
  | true =>
    rw [inclusionsFrom, isMacroEnd_trim]
    exact List.Subset.refl _
  | false =>
    rw [inclusionsFrom, staysOpen, if_neg Bool.false_ne_true]
    cases begun : header? (codeOf text) with
    | some name =>
      rw [landmark?_eq_header_iff.2 begun]
      exact List.Subset.refl _
    | none =>
      split
      · exact List.subset_cons_self _ _
      · rename_i name mark
        rw [landmark?_eq_header_iff.1 mark] at begun
        cases begun
      · exact List.Subset.refl _

/-- A line that includes a file outside of macros counts among the inclusions of its file. -/
theorem mem_inclusions_of_landmark {above rest : List Text} {text target : Text}
    (outside : leavesOpen above = false)
    (mark : landmark? (Text.trim text) = some (.inclusion target)) :
    target ∈ inclusions (above ++ text :: rest) := by
  have behind : ∀ within, above.foldl staysOpen within = false →
      target ∈ inclusionsFrom within (above ++ text :: rest) := by
    clear outside
    induction above with
    | nil =>
      rintro within rfl
      rw [List.nil_append, inclusionsFrom, mark]
      exact List.mem_cons_self
    | cons first above ih =>
      intro within outside
      exact inclusionsFrom_subset within first _ (ih _ outside)
  exact behind false outside

end Scan

end Sm83Cost
