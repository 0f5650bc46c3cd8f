import Sm83Cost.Text.Blank
import Sm83Cost.Text.Caseless
import Sm83Cost.Text.Word

/-!
# Landmarks

A scan looks for a few kinds of line without taking them apart: an included
file, the header and the end of a macro, and a global label.  Macro headers come
in two styles, with the name before a colon or after the keyword.

All functions here expect a line without blanks around it.
-/

namespace Sm83Cost.Scan

set_option autoImplicit false

/-- What a scan stops at. -/
inductive Landmark where
  /-- Another file is included here. -/
  | inclusion (target : Text)
  /-- A macro of this name begins. -/
  | header (name : Text)
  /-- A global label. -/
  | label (name : Text)
deriving DecidableEq, Repr

/-- No word goes on here. -/
def isWordEnd (rest : Text) : Bool :=
  !rest.head?.any Text.isWord

/-- What follows one or more blanks. -/
def afterBlanks? : Text → Option Text
  | [] => none
  | c :: rest => if Text.isBlank c then some (rest.dropWhile Text.isBlank) else none

/-- The text, unless it is empty. -/
def nonempty? (text : Text) : Option Text :=
  if text.isEmpty then none else some text

/-- The target of an included file, with quotes or without. -/
def inclusion? (line : Text) : Option Text :=
  ((Text.afterKeyword? "include" line).bind afterBlanks?).bind fun rest =>
    let isQuote := fun c => c == '"' || c == '\''
    let unquoted := if rest.head?.any isQuote then rest.drop 1 else rest
    nonempty? (unquoted.takeWhile fun c => !isQuote c && !Text.isBlank c)

/-- The word at the beginning of a line and what follows it. -/
def leadingWord? (line : Text) : Option (Text × Text) :=
  (nonempty? (line.takeWhile Text.isWord)).map ((·, line.dropWhile Text.isWord))

/-- The name of a macro whose header has the name first. -/
def nameFirst? (line : Text) : Option Text :=
  (leadingWord? line).bind fun (name, rest) =>
    match rest with
    | ':' :: more =>
      (Text.afterKeyword? "macro" (more.dropWhile Text.isBlank)).bind fun after =>
        if isWordEnd after then some name else none
    | _ => none

/-- The name of a macro whose header has the keyword first. -/
def keywordFirst? (line : Text) : Option Text :=
  ((Text.afterKeyword? "macro" line).bind afterBlanks?).bind fun rest =>
    nonempty? (rest.takeWhile Text.isWord)

/-- The name of a macro that begins on the line. -/
def header? (line : Text) : Option Text :=
  (nameFirst? line).or (keywordFirst? line)

/-- The macro that is open ends on the line. -/
def isMacroEnd (line : Text) : Bool :=
  (Text.afterKeyword? "endm" line).any isWordEnd

/-- The global label of a line: a word and one or two colons, with a blank or nothing behind. -/
def label? (line : Text) : Option Text :=
  (leadingWord? line).bind fun (name, rest) =>
    let behind := match rest with
      | ':' :: ':' :: more => some more
      | ':' :: more => some more
      | _ => none
    behind.bind fun more => if more.head?.all Text.isBlank then some name else none

/-- The landmark on a line; an included file goes before a macro, and a macro before a
label. -/
def landmark? (line : Text) : Option Landmark :=
  ((inclusion? line).map Landmark.inclusion).or
    (((header? line).map Landmark.header).or ((label? line).map Landmark.label))

end Sm83Cost.Scan
