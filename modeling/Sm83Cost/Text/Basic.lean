/-!
# Text

A text is a list of characters.  Lines of source, labels, operands, path names
and messages are all texts, so that each of them can be taken apart by recursion
on the list.  Literals are written as strings and read as texts.

Besides the type this module holds the few operations that core does not give:
cutting at the end, splitting at a separator, and replacing matches from left to
right.
-/

namespace Sm83Cost

set_option autoImplicit false

/-- A sequence of characters. -/
abbrev Text := List Char

/-- A literal stands for its characters. -/
instance : Coe String Text := ⟨String.toList⟩

namespace Text

/-! ## Cutting -/

/-- Drops the longest end of a text whose characters all satisfy `p`. -/
def dropEndWhile (p : Char → Bool) (text : Text) : Text :=
  (text.reverse.dropWhile p).reverse

/-- Drops the longest beginning and the longest end whose characters all satisfy `p`. -/
def dropAround (p : Char → Bool) (text : Text) : Text :=
  dropEndWhile p (text.dropWhile p)

/-- A text is the part that stays followed by the part that is dropped. -/
theorem dropEndWhile_append_takeWhile (p : Char → Bool) (text : Text) :
    dropEndWhile p text ++ (text.reverse.takeWhile p).reverse = text := by
  rw [dropEndWhile, ← List.reverse_append, List.takeWhile_append_dropWhile, List.reverse_reverse]

/-- The text after the given beginning, if it begins so. -/
def after? (start text : Text) : Option Text :=
  start.isPrefixOf? text

/-- The text before the given end, if it ends so. -/
def before? (stop text : Text) : Option Text :=
  (after? stop.reverse text.reverse).map List.reverse

/-- Some part of the text is the given one. -/
def includes (part : Text) : Text → Bool
  | [] => part.isEmpty
  | c :: rest => part.isPrefixOf (c :: rest) || includes part rest

/-! ## Splitting and joining -/

/-- Puts a character in front of the first piece. -/
def extendFirst (c : Char) : List Text → List Text
  | [] => [[c]]
  | piece :: pieces => (c :: piece) :: pieces

/-- The pieces between the characters that satisfy `p`; there is always at least one. -/
def splitWhere (p : Char → Bool) : Text → List Text
  | [] => [[]]
  | c :: rest => if p c then [] :: splitWhere p rest else extendFirst c (splitWhere p rest)

theorem extendFirst_ne_nil (c : Char) (pieces : List Text) : extendFirst c pieces ≠ [] := by
  cases pieces <;> simp [extendFirst]

/-- There is always a piece. -/
theorem splitWhere_ne_nil (p : Char → Bool) (text : Text) : splitWhere p text ≠ [] := by
  cases text with
  | nil => simp [splitWhere]
  | cons c rest =>
    rw [splitWhere]
    split
    · simp
    · exact extendFirst_ne_nil c _

/-- The pieces in order, with a separator between neighbours. -/
def joined (separator : Text) (pieces : List Text) : Text :=
  separator.intercalate pieces

/-- The first text stands before the second one in order of code points, or they are the same. -/
def precedes (first second : Text) : Bool :=
  !List.lex second first

/-- The texts in order of code points. -/
def sorted (texts : List Text) : List Text :=
  texts.mergeSort precedes

/-! ## Replacing -/

/-- Replaces matches from left to right.  `measure` tells how many characters match at the
head of a text; the characters of a match are passed over, and `skip` counts those still to
be passed over. -/
def replaceFrom (measure : Text → Option Nat) (new : Text) : Nat → Text → Text
  | _, [] => []
  | skip + 1, _ :: rest => replaceFrom measure new skip rest
  | 0, c :: rest =>
    match measure (c :: rest) with
    | some (more + 1) => new ++ replaceFrom measure new more rest
    | _ => c :: replaceFrom measure new 0 rest

/-- Replaces every match by the same text, the leftmost match first. -/
def replaceMatches (measure : Text → Option Nat) (new text : Text) : Text :=
  replaceFrom measure new 0 text

/-- Replaces every occurrence of one of the given spellings by one text. -/
def replaceAny (spellings : List Text) (new text : Text) : Text :=
  replaceMatches (fun rest => (spellings.find? (·.isPrefixOf rest)).map List.length) new text

end Text

end Sm83Cost
