import Sm83Cost.Literal
import Sm83Cost.Proofs.Line.Caseless
import Sm83Cost.Proofs.Numeral.DigitTexts
import Sm83Cost.Proofs.Text.Small

/-!
# Numbers in every notation

A literal is read in two ways: as a whole, in capitals, and at the beginning of an
expression, as it stands.  Both readers look for a mark of the base first, and a
mark may look like digits: `0x` begins with one, and `0bh` is eleven before the
suffix, not a binary numeral without digits.

The digits decide it.  Each of them has a value below its base (`Spells`), and no
letter of a mark is a digit where that mark could be meant.  So a number that is
written in any notation (`Literal.Writes`), with zeros in front and letters in either
case, is read as itself by both readers (`value?_and_leading_of_notations`).

The readers differ behind the digits.  Only a literal as a whole may end in the
suffix.  An expression may go on, but not with a letter, a digit or an underscore,
since these may be taken for more digits.
-/

namespace Sm83Cost

set_option autoImplicit false

open Text (asciiUpper isBlank isWord)

theorem Text.isWord_of_isAlphanum {c : Char} (alphanumeric : c.isAlphanum = true) :
    isWord c = true := by
  rw [isWord, alphanumeric, Bool.true_or, Bool.true_or]

namespace Numeral

/-- The bases of numerals. -/
def bases : List Nat := [2, 8, 10, 16]

theorem bounds_of_mem_bases {base : Nat} (known : base ∈ bases) : 1 < base ∧ base ≤ 16 := by
  have each : ∀ base ∈ bases, 1 < base ∧ base ≤ 16 := by decide
  exact each base known

/-! ## Digits -/

/-- The character is the digit of the value in the base; from ten on it is a small or a capital
letter. -/
def Spells (base value : Nat) (c : Char) : Prop :=
  value < base ∧ c.toLower = Nat.digitChar value

/-- The text consists of the digits of the number in the base, with any zeros in front and with
letters in either case. -/
def IsNumeralOf (base number : Nat) (text : Text) : Prop :=
  ∃ zeros, text.map Char.toLower = List.replicate zeros '0' ++ Nat.toDigits base number

/-- The case of letters does not matter to a numeral. -/
theorem IsNumeralOf.asciiUpper {base number : Nat} {text : Text}
    (numeral : IsNumeralOf base number text) : IsNumeralOf base number (asciiUpper text) := by
  have same : Text.CaseBlind Char.toLower := Text.caseBlind_of_letters (by decide)
  obtain ⟨zeros, digits⟩ := numeral
  refine ⟨zeros, ?_⟩
  rw [Text.asciiUpper, List.map_map, ← digits]
  exact List.map_congr_left fun c _ => same c

/-- A digit keeps its value in each base that has it. -/
theorem digit?_of_lt {base value : Nat} {c : Char} (read : digit? 16 c = some value)
    (below : value < base) : digit? base c = some value := by
  unfold digit? at read ⊢
  rw [Option.filter_eq_some_iff] at read ⊢
  exact ⟨read.1, decide_eq_true below⟩

/-- The digits are ASCII letters and digits with their values. -/
theorem Spells.ascii {base value : Nat} {c : Char} (known : base ∈ bases)
    (spells : Spells base value c) :
    c.toNat < 128 ∧ c.isAlphanum = true ∧ digit? base c = some value := by
  obtain ⟨below, letter⟩ := spells
  have bound : value < 16 := below.trans_le (bounds_of_mem_bases known).2
  have ascii : c.toNat < 128 := by
    have each : ∀ value < 16, (Nat.digitChar value).toNat < 128 := by decide
    by_contra beyond
    rw [Text.toLower_of_beyond (Nat.le_of_not_lt beyond)] at letter
    exact beyond (letter ▸ each value bound)
  have digits : ∀ code < 128, ∀ value < 16, (Char.ofNat code).toLower = Nat.digitChar value →
      (Char.ofNat code).isAlphanum = true ∧ digit? 16 (Char.ofNat code) = some value := by
    decide +kernel
  have here := digits c.toNat ascii value bound
  rw [Char.ofNat_toNat] at here
  obtain ⟨alphanumeric, read⟩ := here letter
  exact ⟨ascii, alphanumeric, digit?_of_lt read below⟩

/-! ## Digits of numbers -/

theorem ofDigits_replicate_zero (base zeros : Nat) (values : List Nat) :
    ofDigits base (List.replicate zeros 0 ++ values) = ofDigits base values := by
  rw [ofDigits_eq, ofDigits_eq, List.reverse_append, List.reverse_replicate,
    Nat.ofDigits_append_replicate_zero]

/-- The digits of a number have the value of the number. -/
theorem exists_toDigits {base : Nat} (many : 1 < base) (number : Nat) :
    ∃ values, Nat.toDigits base number = values.map Nat.digitChar ∧
      (∀ value ∈ values, value < base) ∧ values ≠ [] ∧ ofDigits base values = number := by
  induction number using Nat.strong_induction_on with
  | _ number ih =>
    by_cases single : number < base
    · refine ⟨[number], Nat.toDigits_of_lt_base single, ?_, List.cons_ne_nil _ _, ?_⟩
      · exact List.forall_mem_singleton.2 single
      · simp [ofDigits]
    · have least : base ≤ number := Nat.le_of_not_lt single
      have smaller : number / base < number := Nat.div_lt_self (by omega) many
      obtain ⟨values, digits, below, -, value⟩ := ih (number / base) smaller
      refine ⟨values ++ [number % base], ?_, ?_, by simp, ?_⟩
      · rw [Nat.toDigits_of_base_le many least, digits, List.map_append]
        rfl
      · have last : number % base < base := Nat.mod_lt number (by omega)
        exact List.forall_mem_append.2 ⟨below, List.forall_mem_singleton.2 last⟩
      · calc
          ofDigits base (values ++ [number % base])
              = ofDigits base values * base + number % base := by
                rw [ofDigits, List.foldl_append]
                rfl
          _ = number / base * base + number % base := by rw [value]
          _ = number := Nat.div_add_mod' number base

/-- A numeral spells values that make up its number. -/
theorem IsNumeralOf.exists_spelled {base number : Nat} {text : Text} (known : base ∈ bases)
    (numeral : IsNumeralOf base number text) :
    ∃ values, List.Forall₂ (Spells base) values text ∧ values ≠ [] ∧
      ofDigits base values = number := by
  have many : 1 < base := (bounds_of_mem_bases known).1
  obtain ⟨zeros, digits⟩ := numeral
  obtain ⟨values, written, below, some, value⟩ := exists_toDigits many number
  have whole : (List.replicate zeros 0 ++ values).map Nat.digitChar = text.map Char.toLower := by
    rw [digits, written, List.map_append, List.map_replicate]
    rfl
  refine ⟨List.replicate zeros 0 ++ values, ?_, by simp [some], ?_⟩
  · refine (List.forall₂_and_left _ _).2 ⟨?_, ?_⟩
    · refine List.forall_mem_append.2 ⟨?_, below⟩
      intro other member
      rw [List.eq_of_mem_replicate member]
      omega
    · rw [← List.forall₂_eq_eq_eq, List.forall₂_map_left_iff, List.forall₂_map_right_iff] at whole
      exact whole.imp fun _ _ same => same.symm
  · rw [ofDigits_replicate_zero, value]

/-! ## Reading digits -/

section Spelled

variable {base : Nat} (known : base ∈ bases) {values : List Nat} {text : Text}
include known

theorem filterMap_digit?_of_spelled (spelled : List.Forall₂ (Spells base) values text) :
    text.filterMap (digit? base) = values := by
  induction spelled with
  | nil => rfl
  | cons spells _ ih => rw [List.filterMap_cons_some (spells.ascii known).2.2, ih]

/-- Each character of a numeral is an ASCII letter or digit that has a value. -/
theorem forall_of_spelled (spelled : List.Forall₂ (Spells base) values text) :
    ∀ c ∈ text, c.toNat < 128 ∧ c.isAlphanum = true ∧ (digit? base c).isSome = true := by
  induction spelled with
  | nil => nofun
  | cons spells _ ih =>
    obtain ⟨ascii, alphanumeric, read⟩ := spells.ascii known
    exact List.forall_mem_cons.2 ⟨⟨ascii, alphanumeric, Option.isSome_of_eq_some read⟩, ih⟩

/-- No mark is among the characters of a numeral. -/
theorem ne_of_spelled (spelled : List.Forall₂ (Spells base) values text) {c : Char}
    (member : c ∈ text) {mark : Char} (plain : mark.isAlphanum = false) : c ≠ mark := by
  rintro rfl
  have alphanumeric := (forall_of_spelled known spelled c member).2.1
  exact Bool.false_ne_true (plain.symm.trans alphanumeric)

theorem digitsFrom?_of_spelled (spelled : List.Forall₂ (Spells base) values text)
    {needed : Bool} (enough : needed = true → values ≠ []) :
    digitsFrom? base needed text = some values := by
  induction spelled generalizing needed with
  | nil =>
    cases needed with
    | true => exact absurd rfl (enough rfl)
    | false => rfl
  | @cons value c values rest spells rests ih =>
    have plain : c ≠ '_' :=
      ne_of_spelled known (.cons spells rests) List.mem_cons_self (by decide)
    have others : digitsFrom? base false rest = some values := @ih false nofun
    rw [digitsFrom?, if_neg plain, (spells.ascii known).2.2, others]
    rfl

/-- Digits are not taken for a mark of their base. -/
theorem dropBaseMark_of_spelled (spelled : List.Forall₂ (Spells base) values text) :
    dropBaseMark base text = text := by
  have each : ∀ base ∈ bases, ∀ value < base, baseLetter base ≠ some (Nat.digitChar value) := by
    decide
  match text, values, spelled with
  | [], _, _ => rfl
  | [_], _, _ => rfl
  | zero :: letter :: rest, _, .cons _ (.cons spells _) =>
    have other : ¬ (Text.decimalDigit? zero = some 0 ∧ baseLetter base = some letter.toLower) := by
      rw [spells.2]
      exact fun mark => each base known _ spells.1 mark.2
    exact if_neg other

/-- The number that the digits stand for is read. -/
theorem read?_of_spelled (spelled : List.Forall₂ (Spells base) values text) (some : values ≠ [])
    (few : base = 10 → text.length ≤ decimalLimit) :
    read? base text = Option.some (ofDigits base values : Int) := by
  have all := forall_of_spelled known spelled
  have unpadded : Text.dropAround isPadding text = text := by
    refine Text.dropAround_of_forall fun c member => ?_
    rw [isPadding, Text.isBlank_of_isWord (Text.isWord_of_isAlphanum (all c member).2.1),
      Bool.false_and]
  have short : ¬ (base = 10 ∧ decimalLimit < values.length) := by
    rintro ⟨ten, long⟩
    have bound := few ten
    rw [← spelled.length_eq] at bound
    omega
  have unsigned : unsigned? base text = Option.some (ofDigits base values) := by
    rw [unsigned?, dropBaseMark_of_spelled known spelled,
      digitsFrom?_of_spelled known spelled fun _ => some]
    exact if_neg short
  rw [read?, unpadded]
  split
  · exact absurd rfl (ne_of_spelled known spelled List.mem_cons_self (by decide))
  · exact absurd rfl (ne_of_spelled known spelled List.mem_cons_self (by decide))
  · rw [unsigned]
    rfl

theorem IsNumeralOf.read?_eq {number : Nat} (numeral : IsNumeralOf base number text)
    (few : base = 10 → text.length ≤ decimalLimit) : read? base text = some (number : Int) := by
  obtain ⟨values, spelled, some, rfl⟩ := numeral.exists_spelled known
  exact read?_of_spelled known spelled some few

/-- A numeral is not empty, and it is an ASCII text without blanks. -/
theorem IsNumeralOf.plain {number : Nat} (numeral : IsNumeralOf base number text) :
    text ≠ [] ∧ ∀ c ∈ text, c.toNat < 128 ∧ isBlank c = false := by
  obtain ⟨values, spelled, some, -⟩ := numeral.exists_spelled known
  constructor
  · rintro rfl
    exact some (List.forall₂_nil_right_iff.1 spelled)
  · intro c member
    obtain ⟨ascii, alphanumeric, -⟩ := forall_of_spelled known spelled c member
    exact ⟨ascii, Text.isBlank_of_isWord (Text.isWord_of_isAlphanum alphanumeric)⟩

end Spelled

end Numeral

namespace Literal

open Numeral

/-! ## Digits are no marks -/

theorem leadingDigits_of_spelled {base : Nat} {values : List Nat} {text : Text}
    (known : base ∈ bases) (spelled : List.Forall₂ (Spells base) values text)
    {tail : Text} (stop : tail.head?.any isWord = false) :
    leadingDigits base (text ++ tail) = values := by
  have stops : tail.head?.any (isDigit base) = false := by
    cases first : tail.head? with
    | none => rfl
    | some c =>
      rw [first, Option.any_some, isWord, Bool.or_eq_false_iff, Bool.or_eq_false_iff] at stop
      rw [Option.any_some, isDigit, stop.1.1, Bool.false_and]
  have all : ∀ c ∈ text, isDigit base c = true := by
    intro c member
    obtain ⟨-, alphanumeric, read⟩ := forall_of_spelled known spelled c member
    rw [isDigit, alphanumeric, read]
    rfl
  rw [leadingDigits, Text.takeWhile_append_of_head? stops, List.takeWhile_eq_self_iff.2 all,
    filterMap_digit?_of_spelled known spelled]

/-- The letter of `0x`. -/
def isMarkLetter (c : Char) : Bool := c == 'x' || c == 'X'

theorem isMarkLetter_of_digit? {base : Nat} {c : Char} (read : (digit? base c).isSome = true) :
    isMarkLetter c = false := by
  by_contra mark
  have none : ∀ base, digit? base 'x' = none ∧ digit? base 'X' = none := fun _ => ⟨rfl, rfl⟩
  rw [Bool.not_eq_false, isMarkLetter, Bool.or_eq_true, beq_iff_eq, beq_iff_eq] at mark
  rcases mark with rfl | rfl
  · rw [(none base).1] at read
    cases read
  · rw [(none base).2] at read
    cases read

/-- No base is announced by digits, unless the letter of a mark follows them. -/
theorem announced?_of_spelled {base : Nat} {values : List Nat} {text : Text}
    (known : base ∈ bases) (spelled : List.Forall₂ (Spells base) values text) (some : values ≠ [])
    {tail : Text} (stop : tail.head?.any isMarkLetter = false) :
    announced? (text ++ tail) = none := by
  have all := forall_of_spelled known spelled
  cases spelled with
  | nil => exact absurd rfl some
  | @cons _ c _ rest first rests =>
    have unlike : ∀ {mark : Char}, mark.isAlphanum = false → c ≠ mark :=
      ne_of_spelled known (.cons first rests) List.mem_cons_self
    have behind : (rest ++ tail).head?.any isMarkLetter = false := by
      cases rest with
      | nil => exact stop
      | cons d more =>
        exact isMarkLetter_of_digit? (all d (List.mem_cons_of_mem c List.mem_cons_self)).2.2
    have unmarked : (rest ++ tail).head?.any (fun d => d == 'x' || d == 'X') = false := behind
    rw [List.cons_append, announced?_cons, if_neg (unlike rfl), if_neg (unlike rfl),
      if_neg (unlike rfl), unmarked]
    exact if_neg fun both => Bool.false_ne_true both.2

/-! ## Notations -/

/-- The text writes the number: in hexadecimal behind `$` or `0x`, in binary behind `%`, in octal
behind `&`, or in decimal with not more digits than a decimal numeral may have. -/
inductive Writes (number : Nat) : Text → Prop where
  | hexadecimal {mark digits : Text} (marked : mark ∈ ["$".toList, "0x".toList, "0X".toList])
      (numeral : IsNumeralOf 16 number digits) : Writes number (mark ++ digits)
  | binary {digits : Text} (numeral : IsNumeralOf 2 number digits) : Writes number ('%' :: digits)
  | octal {digits : Text} (numeral : IsNumeralOf 8 number digits) : Writes number ('&' :: digits)
  | decimal {digits : Text} (numeral : IsNumeralOf 10 number digits)
      (few : digits.length ≤ decimalLimit) : Writes number digits

namespace Writes

variable {number : Nat} {text : Text} (writes : Writes number text)
include writes

/-- The base is announced in front of the digits, or the text is a decimal numeral. -/
theorem announced_or_decimal :
    (∃ base ∈ bases, base ≠ 10 ∧ ∃ digits, IsNumeralOf base number digits ∧
      ∀ tail, announced? (text ++ tail) = some (base, digits ++ tail)) ∨
    IsNumeralOf 10 number text ∧ text.length ≤ decimalLimit := by
  cases writes with
  | @hexadecimal mark digits marked numeral =>
    have marks : ∀ mark ∈ ["$".toList, "0x".toList, "0X".toList], ∀ text,
        announced? (mark ++ text) = some (16, text) := by
      simp only [List.forall_mem_cons, List.not_mem_nil, false_imp_iff, implies_true, and_true]
      exact ⟨fun _ => rfl, fun _ => rfl, fun _ => rfl⟩
    refine .inl ⟨16, by decide, by decide, digits, numeral, fun tail => ?_⟩
    rw [List.append_assoc]
    exact marks mark marked (digits ++ tail)
  | binary numeral => exact .inl ⟨2, by decide, by decide, _, numeral, fun _ => rfl⟩
  | octal numeral => exact .inl ⟨8, by decide, by decide, _, numeral, fun _ => rfl⟩
  | decimal numeral few => exact .inr ⟨numeral, few⟩

theorem plain : text ≠ [] ∧ ∀ c ∈ text, c.toNat < 128 ∧ isBlank c = false := by
  have marks : ∀ c ∈ ['$', '0', 'x', 'X', '%', '&'], c.toNat < 128 ∧ isBlank c = false :=
    Text.forall_mem_of_all (by decide)
  cases writes with
  | @hexadecimal mark digits marked numeral =>
    obtain ⟨some, all⟩ := numeral.plain (by decide)
    have listed : ∀ mark ∈ ["$".toList, "0x".toList, "0X".toList],
        mark ⊆ ['$', '0', 'x', 'X', '%', '&'] := by
      decide
    refine ⟨List.append_ne_nil_of_right_ne_nil mark some, ?_⟩
    exact List.forall_mem_append.2 ⟨fun c member => marks c (listed mark marked member), all⟩
  | binary numeral =>
    obtain ⟨-, all⟩ := numeral.plain (by decide)
    exact ⟨List.cons_ne_nil _ _, List.forall_mem_cons.2 ⟨marks '%' (by decide), all⟩⟩
  | octal numeral =>
    obtain ⟨-, all⟩ := numeral.plain (by decide)
    exact ⟨List.cons_ne_nil _ _, List.forall_mem_cons.2 ⟨marks '&' (by decide), all⟩⟩
  | decimal numeral few => exact numeral.plain (by decide)

theorem isTrimmed : Text.IsTrimmed text :=
  Text.isTrimmed_of_forall fun c member => (writes.plain.2 c member).2

end Writes

/-! ## Literals as a whole -/

theorem beforeSuffix?_append {digits : Text} (some : digits ≠ []) :
    beforeSuffix? (digits ++ ['H']) = Option.some digits := by
  simp [beforeSuffix?, Text.before?, Text.after?, List.isPrefixOf?, some]

theorem beforeSuffix?_eq_none {text : Text} (other : text.getLast? ≠ some 'H') :
    beforeSuffix? text = none := by
  have before : Text.before? "H" text = none := by
    rw [Text.before?, Option.map_eq_none_iff, Text.after?, ← Option.not_isSome_iff_eq_none]
    intro begins
    obtain ⟨rest, found⟩ := Option.isSome_iff_exists.1 begins
    have whole : 'H' :: rest = text.reverse := List.isPrefixOf?_eq_some_iff_append_eq.1 found
    rw [← List.head?_reverse, ← whole] at other
    exact other rfl
  rw [beforeSuffix?, before]
  rfl

section Between

variable {number : Nat} {lead trail : Text} (before : ∀ c ∈ lead, isBlank c = true)
include before

section Whole

variable (after : ∀ c ∈ trail, isBlank c = true)
include after

/-- Of a text between blanks the capitals are read. -/
theorem upper_trim_of_plain {text : Text} (plain : ∀ c ∈ text, c.toNat < 128 ∧ isBlank c = false) :
    Text.upper (Text.trim (lead ++ (text ++ trail))) = asciiUpper text := by
  rw [Text.trim_eq before after (Text.isTrimmed_of_forall fun c member => (plain c member).2),
    Text.upper_of_ascii fun c member => (plain c member).1]

theorem value?_of_writes {text : Text} (writes : Writes number text) :
    value? (lead ++ (text ++ trail)) = some (number : Int) := by
  have capitals := upper_trim_of_plain before after writes.plain.2
  rw [value?]
  rcases writes.announced_or_decimal with
    ⟨base, known, other, digits, numeral, mark⟩ | ⟨numeral, few⟩
  · have announced := mark []
    rw [List.append_nil, List.append_nil] at announced
    simp only [capitals, announced?_asciiUpper, announced, Option.map_some]
    exact numeral.asciiUpper.read?_eq known fun ten => absurd ten other
  · obtain ⟨values, spelled, some, -⟩ := numeral.asciiUpper.exists_spelled (by decide)
    have unmarked : announced? (asciiUpper text) = none := by
      rw [← List.append_nil (asciiUpper text)]
      exact announced?_of_spelled (by decide) spelled some rfl
    have bare : beforeSuffix? (asciiUpper text) = none := by
      refine beforeSuffix?_eq_none fun last => ?_
      have digit := forall_of_spelled (by decide) spelled 'H' (List.mem_of_getLast? last)
      exact absurd digit.2.2 (by decide)
    simp only [capitals, unmarked, bare]
    refine numeral.asciiUpper.read?_eq (by decide) fun _ => ?_
    rw [Text.length_asciiUpper]
    exact few

theorem value?_of_suffixed {digits : Text} {suffix : Char}
    (numeral : IsNumeralOf 16 number digits) (marked : suffix ∈ ['h', 'H']) :
    value? (lead ++ (digits ++ suffix :: trail)) = some (number : Int) := by
  have capital : ∀ suffix ∈ ['h', 'H'],
      suffix.toUpper = 'H' ∧ suffix.toNat < 128 ∧ isBlank suffix = false :=
    Text.forall_mem_of_all (by decide)
  obtain ⟨upper, plain⟩ := capital suffix marked
  have all : ∀ c ∈ digits ++ [suffix], c.toNat < 128 ∧ isBlank c = false :=
    List.forall_mem_append.2 ⟨(numeral.plain (by decide)).2, List.forall_mem_singleton.2 plain⟩
  have capitals : Text.upper (Text.trim (lead ++ (digits ++ suffix :: trail))) =
      asciiUpper digits ++ ['H'] := by
    have same := upper_trim_of_plain before after all
    rw [List.append_assoc, List.singleton_append] at same
    rw [same, asciiUpper, List.map_append, List.map_singleton, upper]
    rfl
  obtain ⟨values, spelled, some, -⟩ := numeral.asciiUpper.exists_spelled (by decide)
  have unmarked : announced? (asciiUpper digits ++ ['H']) = none :=
    announced?_of_spelled (by decide) spelled some rfl
  have nonempty := (numeral.asciiUpper.plain (by decide)).1
  rw [value?]
  simp only [capitals, unmarked, beforeSuffix?_append nonempty]
  exact numeral.asciiUpper.read?_eq (by decide) (absurd · (by decide))

end Whole

/-! ## Literals at the beginning -/

theorem leading_of_writes {text tail : Text} (writes : Writes number text)
    (stop : tail.head?.any isWord = false) :
    leading (lead ++ (text ++ tail)) = .ok number := by
  obtain ⟨kept, trail, -, rfl, trimmed⟩ :=
    Text.exists_trim_append before writes.isTrimmed writes.plain.1 tail
  have stops : kept.head?.any isWord = false := by
    cases kept with
    | nil => rfl
    | cons c rest => exact stop
  rw [leading, trimmed]
  rcases writes.announced_or_decimal with
    ⟨base, known, -, digits, numeral, mark⟩ | ⟨numeral, few⟩
  · obtain ⟨values, spelled, -, rfl⟩ := numeral.exists_spelled known
    rw [mark kept]
    dsimp only
    rw [leadingDigits_of_spelled known spelled stops]
  · obtain ⟨values, spelled, some, rfl⟩ := numeral.exists_spelled (by decide)
    have letter : kept.head?.any isMarkLetter = false := by
      cases kept with
      | nil => rfl
      | cons c rest =>
        by_contra mark
        have words : ∀ c, isMarkLetter c = true → isWord c = true := by
          intro c letter
          rw [isMarkLetter, Bool.or_eq_true, beq_iff_eq, beq_iff_eq] at letter
          rcases letter with rfl | rfl <;> rfl
        exact Bool.false_ne_true (stops.symm.trans (words c (Bool.of_not_eq_false mark)))
    have short : ¬ decimalLimit < values.length := by
      rw [spelled.length_eq]
      exact Nat.not_lt.2 few
    rw [announced?_of_spelled (by decide) spelled some letter]
    dsimp only
    rw [leadingDigits_of_spelled (by decide) spelled stops]
    exact if_neg short

end Between

/-- **Every number is read back from every notation.**  A text that writes it, with any blanks
around it, has its value as a literal and as the beginning of an expression, whatever follows that
does not go on like a word.  Hexadecimal digits before the suffix have it as a literal only. -/
theorem value?_and_leading_of_notations {number : Nat} {lead trail : Text}
    (before : ∀ c ∈ lead, isBlank c = true) (after : ∀ c ∈ trail, isBlank c = true) :
    (∀ text, Writes number text →
      value? (lead ++ (text ++ trail)) = some (number : Int) ∧
      leading (lead ++ (text ++ trail)) = .ok number ∧
      ∀ tail : Text, tail.head?.any isWord = false →
        leading (lead ++ (text ++ tail)) = .ok number) ∧
    ∀ digits, ∀ suffix ∈ ['h', 'H'], IsNumeralOf 16 number digits →
      value? (lead ++ (digits ++ suffix :: trail)) = some (number : Int) := by
  refine ⟨?_, fun digits suffix marked numeral => value?_of_suffixed before after numeral marked⟩
  intro text writes
  have stop : trail.head?.any isWord = false := by
    cases trail with
    | nil => rfl
    | cons c rest => exact (Text.plain_of_isBlank (after c List.mem_cons_self)).1
  exact ⟨value?_of_writes before after writes, leading_of_writes before writes stop,
    fun tail => leading_of_writes before writes⟩

/-- Eleven between blanks, with a zero in front, before a sum, and with digits that look like a
binary mark. -/
theorem value?_and_leading_of_notations_eleven :
    value? " 0x0B\t".toList = some 11 ∧ leading " 0x0B\t".toList = .ok 11 ∧
      leading " 0x0B+1".toList = .ok 11 ∧ value? " 0bH\t".toList = some 11 := by
  have before : ∀ c ∈ [' '], isBlank c = true := Text.forall_mem_of_all (by decide)
  have after : ∀ c ∈ ['\t'], isBlank c = true := Text.forall_mem_of_all (by decide)
  obtain ⟨marked, suffixed⟩ := value?_and_leading_of_notations before after
  have capital : IsNumeralOf 16 11 "0B".toList := ⟨1, by decide⟩
  have small : IsNumeralOf 16 11 "0b".toList := ⟨1, by decide⟩
  obtain ⟨whole, begins, followed⟩ := marked "0x0B" (@Writes.hexadecimal 11 "0x" "0B" (by decide) capital)
  exact ⟨whole, begins, followed "+1" (by decide), suffixed "0b" 'H' (by decide) small⟩

end Literal

end Sm83Cost
