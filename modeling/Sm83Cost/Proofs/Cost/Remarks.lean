import Sm83Cost.Proofs.Cost.Abreast
import Sm83Cost.Proofs.Scan.Code

/-!
# Comments cost nothing

A remark is added at the end of a line, as a comment of its own or as more text
in the comment that is there.  It changes neither the code of the line nor what
the line means to a scan, whatever its text: a keyword in a comment begins and
ends no macro.  So a document and the same document with remarks have the same
costs, and the analyses differ in the texts of lines and comments only
(`analyse_remarked`).

Where a quote is open at the end of a line, a semicolon would be part of the
quoted text, so nothing is said about such lines.
-/

namespace Sm83Cost

set_option autoImplicit false

/-- The second line is the first one, or the first one with a remark at its end. -/
inductive Remarked : Text → Text → Prop where
  | unchanged (line : Text) : Remarked line line
  | remark {line : Text} (takes : Line.takesRemark line = true) (text : Text) :
      Remarked line (line ++ ' ' :: ';' :: text)

theorem Remarked.sameCode {line other : Text} (remarked : Remarked line other) :
    Scan.SameCode line other := by
  cases remarked with
  | unchanged => rfl
  | remark takes text => exact (Line.codeOf_append takes text).symm

namespace Session

/-- **Comments never influence costs.**  Remarks of any text are put at the ends of some lines of a
document, on lines that have a comment or have no quote open at the end.  The analysis without a
directory fails as before, or it has the result that it had before, in everything but the lines as
written and their comments, where they are and in the bodies of macros. -/
theorem analyse_remarked (session : Session) (tree : FileTree) (file : Option Text)
    {lines others : List Text} (remarks : List.Forall₂ Remarked lines others) :
    (session.analyse tree others file none true).result.map (look .uncommented) =
      (session.analyse tree lines file none true).result.map (look .uncommented) := by
  have alike : List.Forall₂ Scan.SameCode lines others :=
    remarks.imp fun _ _ remarked => remarked.sameCode
  exact (analyse_abreast View.indifferent_uncommented rfl rfl rfl rfl rfl tree (.inl rfl)
    alike).1.symm

/-- Remarks that look like the header and the end of a macro, and one behind a quoted semicolon. -/
theorem analyse_remarked_keywords :
    let lines : List Text :=
      ["Two: MACRO".toList, " db 1, 2 ; both".toList, " ENDM".toList, " db \";\"".toList,
        " Two".toList, "include".toList]
    let others : List Text :=
      ["Two: MACRO ;ENDM".toList, " db 1, 2 ; both ; ENDM".toList, " ENDM".toList,
        " db \";\" ;x: MACRO".toList, " Two ;\"".toList, "include ;two.asm".toList]
    lines ≠ others ∧
      (({} : Session).analyse {} others none none true).result.map (look .uncommented) =
        (({} : Session).analyse {} lines none none true).result.map (look .uncommented) := by
  intro lines others
  have remark : ∀ line text other, Line.takesRemark line = true →
      line ++ ' ' :: ';' :: text = other → Remarked line other := by
    rintro line text other takes rfl
    exact .remark takes text
  refine ⟨by decide, analyse_remarked {} {} none ?_⟩
  refine .cons (remark _ "ENDM" _ (by decide) rfl) ?_
  refine .cons (remark _ " ENDM" _ (by decide) rfl) ?_
  refine .cons (.unchanged _) ?_
  refine .cons (remark _ "x: MACRO" _ (by decide) rfl) ?_
  refine .cons (remark _ "\"" _ (by decide) rfl) ?_
  exact .cons (remark _ "two.asm" _ (by decide) rfl) .nil

end Session

end Sm83Cost
