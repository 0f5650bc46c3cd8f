import Sm83Cost.Opcode.Set
import Sm83Cost.Store

/-!
# Opcode tables

A table lists instructions under their keys, unprefixed and extended ones apart,
and a few other spellings for unprefixed ones.  A table is made from rows.  It is
refused when two rows of one kind share a key, when another spelling hides an
instruction, and when it names an opcode that no unprefixed row has.
-/

namespace Sm83Cost.Opcode

set_option autoImplicit false

/-- An entry together with its key, which is worked out once. -/
structure Listed where
  entry : Entry
  key : Text := entry.key
  key_eq : key = entry.key := by rfl
deriving DecidableEq

/-- An opcode table. -/
structure Table where
  unprefixed : List Listed
  extended : List Listed
  spellings : List (Text × Entry) := []
deriving DecidableEq

/-- Why rows make no table. -/
inductive TableError where
  /-- Two rows of one kind have this key. -/
  | duplicate (key : Text)
  /-- Another spelling is the key of an instruction. -/
  | hides (key : Text)
  /-- Another spelling names an opcode that no unprefixed row has. -/
  | unknownOpcode (opcode : Int)
  /-- The effect on the flags has that many marks instead of four. -/
  | marks (count : Nat)
  /-- A row has that many cells instead of six. -/
  | cells (count : Nat)
deriving DecidableEq, Repr

/-- What is said of a list that has not as many items as expected. -/
def countText (expected count : Nat) : Text :=
  if count < expected then
    "not enough values to unpack (expected " ++ Numeral.decimal expected ++ ", got "
      ++ Numeral.decimal count ++ ")"
  else "too many values to unpack (expected " ++ Numeral.decimal expected ++ ")"

/-- The text of an error. -/
def TableError.message : TableError → Text
  | .duplicate key => "duplicate opcode table key " ++ Text.quoted key
  | .hides key => "alias " ++ Text.quoted key ++ " shadows an existing entry"
  | .unknownOpcode opcode => Numeral.signed opcode
  | .marks count => countText 4 count
  | .cells count => countText 6 count

namespace Table

/-! ## Looking at a table -/

/-- The entry under a key in a list of entries. -/
def findIn (listed : List Listed) (key : Text) : Option Entry :=
  (listed.find? (·.key == key)).map Listed.entry

/-- The unprefixed entry under a key or under another spelling. -/
def get? (table : Table) (key : Text) : Option Entry :=
  (findIn table.unprefixed key).or (table.spellings.lookup key)

/-- The extended entry under a key. -/
def getExtended? (table : Table) (key : Text) : Option Entry :=
  findIn table.extended key

/-- All entries, the unprefixed ones first; other spellings add none. -/
def entries (table : Table) : List Entry :=
  (table.unprefixed ++ table.extended).map Listed.entry

/-- The number of entries before a position; a negative position counts from the end. -/
def countBefore (table : Table) (position : Int) : Nat :=
  if position < 0 then (table.entries.length + position).toNat else position.toNat

/-- The entries from one position up to another. -/
def entriesBetween (table : Table) (first last : Int) : List Entry :=
  (table.entries.take (table.countBefore last)).drop (table.countBefore first)

/-- The number of keys. -/
def size (table : Table) : Nat :=
  table.unprefixed.length + table.spellings.length + table.extended.length

/-! ## Making a table -/

/-- The first key that comes a second time. -/
def firstRepeated? : (seen : List Text) → List Text → Option Text
  | _, [] => none
  | seen, key :: rest =>
    if seen.contains key then some key else firstRepeated? (key :: seen) rest

/-- The entries with their keys. -/
def list (entries : List Entry) : List Listed :=
  entries.map fun entry => { entry }

/-- The entries with their keys, provided that no two of them have the same key. -/
def distinct (entries : List Entry) : Except TableError (List Listed) :=
  match firstRepeated? [] ((list entries).map Listed.key) with
  | some key => .error (.duplicate key)
  | none => .ok (list entries)

/-- The entry that another spelling stands for: the last unprefixed one with that opcode. -/
def spelled (unprefixed : List Listed) (spelling : Text × Int) :
    Except TableError (Text × Entry) :=
  if (unprefixed.map Listed.key).contains spelling.1 then .error (.hides spelling.1)
  else match unprefixed.reverse.find? (·.entry.opcode == spelling.2) with
    | some listed => .ok (spelling.1, listed.entry)
    | none => .error (.unknownOpcode spelling.2)

/-- The table of the given entries, with other spellings for some of them. -/
def make (unprefixed extended : List Entry) (spellings : Store Int) : Except TableError Table := do
  let unprefixed ← distinct unprefixed
  let extended ← distinct extended
  let spellings ← spellings.pairs.mapM (spelled unprefixed)
  return { unprefixed, extended, spellings }

/-- A row from which an entry is made; the effect on the flags is given by four marks. -/
structure Row where
  opcode : Int
  mnemonic : Text
  size : Int
  cycles : Cycles
  marks : Text
  operands : List Text

/-- The entry of a row. -/
def Row.entry (extended : Bool) (row : Row) : Except TableError Entry :=
  match Flags.ofMarks? row.marks with
  | some flags =>
    .ok { opcode := row.opcode, mnemonic := row.mnemonic, size := row.size, cycles := row.cycles,
          flags, operands := row.operands, extended }
  | none => .error (.marks row.marks.length)

/-! ## The table of the processor -/

/-- The table of the whole instruction set. -/
def standard : Table where
  unprefixed := list Opcode.unprefixed
  extended := list Opcode.extended
  spellings := otherSpellings.filterMap fun (key, opcode) =>
    (Opcode.unprefixed.find? (·.opcode == opcode)).map fun entry => (key, entry)

end Table

end Sm83Cost.Opcode
