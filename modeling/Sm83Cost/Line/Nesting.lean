import Sm83Cost.Text.Blank

/-!
# Quotes and brackets

Three things are found on a line by walking over it: where its comment begins,
where its mnemonic ends, and where one operand ends and the next begins.  A
separator counts only outside quotes, and for mnemonics and operands only
outside brackets too.

One machine follows the quotes and brackets.  A closing bracket without an
opening one is passed over.
-/

namespace Sm83Cost.Line

set_option autoImplicit false

/-- The quote that is open, if any, and how many brackets are. -/
structure Nesting where
  quote : Option Char := none
  depth : Nat := 0
deriving DecidableEq, Repr

namespace Nesting

/-- Both kinds of quotes. -/
def isQuote (c : Char) : Bool := c == '"' || c == '\''

/-- Opening brackets and parentheses. -/
def isOpener (c : Char) : Bool := c == '(' || c == '['

/-- Closing brackets and parentheses. -/
def isCloser (c : Char) : Bool := c == ')' || c == ']'

/-- What is open after one more character. -/
def step (nesting : Nesting) (c : Char) : Nesting :=
  match nesting.quote with
  | some mark => if c = mark then { nesting with quote := none } else nesting
  | none =>
    if isQuote c then { nesting with quote := some c }
    else if isOpener c then { nesting with depth := nesting.depth + 1 }
    else if isCloser c then { nesting with depth := nesting.depth - 1 }
    else nesting

/-- Nothing is open. -/
def isTop (nesting : Nesting) : Bool :=
  nesting.quote.isNone && nesting.depth == 0

/-- Cuts a text before the first character at which `stop` holds. -/
def breakAt (stop : Nesting → Char → Bool) : Nesting → Text → Text × Text
  | _, [] => ([], [])
  | nesting, c :: rest =>
    if stop nesting c then ([], c :: rest)
    else
      let (before, after) := breakAt stop (nesting.step c) rest
      (c :: before, after)

/-- The pieces of a text between commas where nothing is open; there is always at least
one. -/
def pieces : Nesting → Text → List Text
  | _, [] => [[]]
  | nesting, c :: rest =>
    if nesting.isTop && c == ',' then [] :: pieces nesting rest
    else Text.extendFirst c (pieces (nesting.step c) rest)

/-- Cutting loses nothing. -/
theorem breakAt_append (stop : Nesting → Char → Bool) (nesting : Nesting) (text : Text) :
    (breakAt stop nesting text).1 ++ (breakAt stop nesting text).2 = text := by
  induction text generalizing nesting with
  | nil => rfl
  | cons c rest ih =>
    rw [breakAt]
    split
    · rfl
    · simp [ih]

/-- There is always a piece. -/
theorem pieces_ne_nil (nesting : Nesting) (text : Text) : pieces nesting text ≠ [] := by
  cases text with
  | nil => simp [pieces]
  | cons c rest =>
    rw [pieces]
    split
    · simp
    · exact Text.extendFirst_ne_nil c _

end Nesting

/-! ## The parts of a line -/

/-- Cuts a line before the semicolon of its comment. -/
def cutComment (line : Text) : Text × Text :=
  Nesting.breakAt (fun nesting c => nesting.quote.isNone && c == ';') {} line

/-- The line without its comment. -/
def codePart (line : Text) : Text :=
  (cutComment line).1

/-- A line is its code followed by its comment. -/
theorem codePart_append (line : Text) : codePart line ++ (cutComment line).2 = line :=
  Nesting.breakAt_append _ {} line

/-- The comment without its semicolon and the blanks around it. -/
def commentPart? (line : Text) : Option Text :=
  match (cutComment line).2 with
  | [] => none
  | _ :: comment => some (Text.trim comment)

/-- The mnemonic and the text of the operands, cut at the first blank where nothing is open. -/
def splitMnemonic (code : Text) : Text × Text :=
  let (mnemonic, rest) :=
    Nesting.breakAt (fun nesting c => nesting.isTop && Text.isBlank c) {} (Text.trim code)
  (mnemonic, Text.trim rest)

/-- The operands, trimmed and without empty ones. -/
def splitOperands (text : Text) : List Text :=
  ((Nesting.pieces {} text).map Text.trim).filter (!·.isEmpty)

/-- Drops at most so many colons from the beginning. -/
def dropColons : Nat → Text → Text
  | count + 1, ':' :: rest => dropColons count rest
  | _, text => text

end Sm83Cost.Line
