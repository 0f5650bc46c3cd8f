import Sm83Cost.Config.Basic
import Sm83Cost.Fault
import Sm83Cost.Proofs.Numeral.DigitTexts
import Sm83Cost.Proofs.Text.Small

/-!
# What a setting asks for

A setting has a key, which may name an option, and a value of any shape, which the option may be
able to use.  This module says what values can be used and for what (`Setting.Denotes`): truth
values and the eight words for them, in any case, and counts that are not negative, given as
integers or as decimal numerals; words and numerals may have blanks around them.

Reading a setting is decided by these two questions alone: it asks for a change exactly if its key
names an option and its value can be used for it (`Config.changeOf_eq_ok`).
-/

namespace Sm83Cost

set_option autoImplicit false

open Text (isBlank)

/-! ## Options and their names -/

namespace OptionName

/-- The name of an option, in words separated by underscores. -/
def name : OptionName → Text
  | .switch .enabled => "enabled"
  | .switch .showByteCount => "show_byte_count"
  | .switch .showCycleCount => "show_cycle_count"
  | .switch .showCumulative => "show_cumulative"
  | .switch .assumeBranchTaken => "assume_branch_taken"
  | .count .predefBytes => "predef_bytes"
  | .count .predefCycles => "predef_cycles"
  | .count .predefJumpBytes => "predef_jump_bytes"
  | .count .predefJumpCycles => "predef_jump_cycles"

/-- The name of an option in camel case. -/
def camelName : OptionName → Text
  | .switch .enabled => "enabled"
  | .switch .showByteCount => "showByteCount"
  | .switch .showCycleCount => "showCycleCount"
  | .switch .showCumulative => "showCumulative"
  | .switch .assumeBranchTaken => "assumeBranchTaken"
  | .count .predefBytes => "predefBytes"
  | .count .predefCycles => "predefCycles"
  | .count .predefJumpBytes => "predefJumpBytes"
  | .count .predefJumpCycles => "predefJumpCycles"

/-- The options. -/
def all : List OptionName :=
  [.switch .enabled, .switch .showByteCount, .switch .showCycleCount, .switch .showCumulative,
    .switch .assumeBranchTaken, .count .predefBytes, .count .predefCycles,
    .count .predefJumpBytes, .count .predefJumpCycles]

/-- What an option wants for its value. -/
def expected : OptionName → Text
  | .switch _ => "a boolean"
  | .count _ => "a non-negative integer"

theorem mem_all (option : OptionName) : option ∈ all := by
  rcases option with which | which <;> cases which <;> simp [all]

/-- Each option has a name of its own. -/
theorem name_injective {first second : OptionName} (same : first.name = second.name) :
    first = second := by
  have each : ∀ first ∈ all, ∀ second ∈ all, first.name = second.name → first = second := by
    decide
  exact each first (mem_all first) second (mem_all second) same

/-- Both names of an option name it. -/
theorem snakeCase_name (option : OptionName) :
    Config.snakeCase option.name = option.name ∧
      Config.snakeCase option.camelName = option.name := by
  have each : ∀ option ∈ all, Config.snakeCase option.name = option.name ∧
      Config.snakeCase option.camelName = option.name := by
    decide +kernel
  exact each option (mem_all option)

end OptionName

/-- The option that is changed. -/
def Change.option : Change → OptionName
  | .switch which _ => .switch which
  | .count which _ => .count which

namespace Config

/-- An option with the value that the configuration has for it. -/
def value (config : Config) : OptionName → Change
  | .switch .enabled => .switch .enabled config.enabled
  | .switch .showByteCount => .switch .showByteCount config.showByteCount
  | .switch .showCycleCount => .switch .showCycleCount config.showCycleCount
  | .switch .showCumulative => .switch .showCumulative config.showCumulative
  | .switch .assumeBranchTaken => .switch .assumeBranchTaken config.assumeBranchTaken
  | .count .predefBytes => .count .predefBytes config.predefBytes
  | .count .predefCycles => .count .predefCycles config.predefCycles
  | .count .predefJumpBytes => .count .predefJumpBytes config.predefJumpBytes
  | .count .predefJumpCycles => .count .predefJumpCycles config.predefJumpCycles

@[simp]
theorem option_value (config : Config) (option : OptionName) :
    (config.value option).option = option := by
  rcases option with which | which <;> cases which <;> rfl

/-- A configuration is made of the values of its options. -/
theorem ext_value {first second : Config}
    (same : ∀ option, first.value option = second.value option) : first = second := by
  obtain ⟨_, _, _, _, _, _, _, _, _⟩ := first
  obtain ⟨_, _, _, _, _, _, _, _, _⟩ := second
  have enabled := same (.switch .enabled)
  have byteCount := same (.switch .showByteCount)
  have cycleCount := same (.switch .showCycleCount)
  have cumulative := same (.switch .showCumulative)
  have taken := same (.switch .assumeBranchTaken)
  have bytes := same (.count .predefBytes)
  have cycles := same (.count .predefCycles)
  have jumpBytes := same (.count .predefJumpBytes)
  have jumpCycles := same (.count .predefJumpCycles)
  simp_all [value]

/-- A change gives its option a value and leaves the others alone. -/
theorem value_apply (config : Config) (change : Change) (option : OptionName) :
    (config.apply change).value option =
      if option = change.option then change else config.value option := by
  cases change with
  | switch which on =>
    rcases option with other | other
    · cases which <;> cases other <;> rfl
    · cases which <;> cases other <;> rfl
  | count which number =>
    rcases option with other | other
    · cases which <;> cases other <;> rfl
    · cases which <;> cases other <;> rfl

/-- A key names the option whose name is its form with underscores. -/
theorem optionFor?_eq_some {key : Text} {option : OptionName} :
    optionFor? key = some option ↔ snakeCase key = option.name := by
  have table : optionNames = OptionName.all.map fun option => (option.name, option) := rfl
  rw [optionFor?, table]
  generalize snakeCase key = form
  constructor
  · intro found
    obtain ⟨before, after, split, -⟩ := List.lookup_eq_some_iff.1 found
    have member : (form, option) ∈ OptionName.all.map fun option => (option.name, option) := by
      simp [split]
    obtain ⟨_, -, same⟩ := List.mem_map.1 member
    cases same
    rfl
  · rintro rfl
    have each : ∀ option ∈ OptionName.all,
        (OptionName.all.map fun option => (option.name, option)).lookup option.name =
          some option := by
      decide
    exact each option (OptionName.mem_all option)

theorem optionFor?_eq_none {key : Text} :
    optionFor? key = none ↔ ∀ option : OptionName, snakeCase key ≠ option.name := by
  simp only [Option.eq_none_iff_forall_ne_some, ne_eq, optionFor?_eq_some]

/-! ## Values that can be used -/

/-- The words for a truth value. -/
def words : Bool → List Text
  | true => ["true", "1", "yes", "on"]
  | false => ["false", "0", "no", "off"]

end Config

/-- The value can be used for the change: it is what an option is to be changed to. -/
inductive Setting.Denotes : Setting → Change → Prop where
  | flag (which : Switch) (on : Bool) : Denotes (.flag on) (.switch which on)
  /-- A word for a truth value, in any case. -/
  | word (which : Switch) (on : Bool) {lead word trail : Text}
      (before : ∀ c ∈ lead, isBlank c = true) (after : ∀ c ∈ trail, isBlank c = true)
      (listed : word.map Char.toLower ∈ Config.words on) :
      Denotes (.text (lead ++ (word ++ trail))) (.switch which on)
  | integer (which : Count) {number : Int} (positive : 0 ≤ number) :
      Denotes (.integer number) (.count which number)
  /-- A decimal numeral, which is not negative. -/
  | numeral (which : Count) {lead digits trail : Text} {number : Nat}
      (before : ∀ c ∈ lead, isBlank c = true) (after : ∀ c ∈ trail, isBlank c = true)
      (decimal : Numeral.IsDecimalOf digits number) :
      Denotes (.text (lead ++ (digits ++ trail))) (.count which number)

namespace Config

/-- The words for truth values are plain, and no word stands for both. -/
theorem plain_words (on : Bool) {word : Text} (listed : word ∈ words on) :
    (∀ c ∈ word, Text.IsPlainSmall c ∧ isBlank c = false) ∧ word ∉ words (!on) := by
  have each : ∀ on, (words on).all (fun word =>
      word.all (fun c => decide (Text.IsPlainSmall c) && !isBlank c) &&
        !(words (!on)).contains word) = true := by
    decide +kernel
  have here := List.all_eq_true.1 (each on) word listed
  simpa using here

theorem isBlank_of_toLower {c : Char} (plain : isBlank c.toLower = false) : isBlank c = false := by
  have each : ∀ c ∈ Text.blanks, isBlank c.toLower = true := Text.forall_mem_of_all (by decide)
  cases blank : isBlank c with
  | false => rfl
  | true =>
    rw [each c (Text.mem_blanks blank)] at plain
    cases plain

/-- What is read as a switch is what the value denotes. -/
theorem switchValue?_eq_some {given : Setting} (which : Switch) {on : Bool} :
    switchValue? given = some on ↔ given.Denotes (.switch which on) := by
  constructor
  · intro found
    cases given with
    | flag value =>
      cases found
      exact .flag which on
    | text value =>
      have listed : Text.lower (Text.trim value) ∈ words on := by
        dsimp only [switchValue?] at found
        split at found
        · rename_i here
          cases found
          exact List.contains_iff_mem.1 here
        · split at found
          · rename_i here
            cases found
            exact List.contains_iff_mem.1 here
          · cases found
      have small := (Text.lower_eq_iff fun c member =>
        ((plain_words on listed).1 c member).1).1 rfl
      obtain ⟨lead, trail, before, after, whole⟩ := Text.exists_trim value
      rw [whole]
      exact .word which on before after (small ▸ listed)
    | null | integer | fraction | infinite | notANumber | list | mapping => cases found
  · intro denotes
    cases denotes with
    | flag => rfl
    | @word _ _ lead word trail before after listed =>
      have full : ∀ c ∈ word, isBlank c = false := fun c member =>
        isBlank_of_toLower ((plain_words on listed).1 _ (List.mem_map_of_mem member)).2
      have trimmed : Text.trim (lead ++ (word ++ trail)) = word :=
        Text.trim_eq before after (Text.isTrimmed_of_forall full)
      have small : Text.lower word = word.map Char.toLower :=
        (Text.lower_eq_iff fun c member => ((plain_words on listed).1 c member).1).2 rfl
      simp only [switchValue?, trimmed, small]
      have there := List.contains_iff_mem.2 listed
      cases on with
      | true => exact if_pos there
      | false =>
        have other : (words true).contains (word.map Char.toLower) = false := by
          simpa using (plain_words false listed).2
        exact (if_neg (Bool.eq_false_iff.1 other)).trans (if_pos there)

theorem isBlank_of_isDecimal {c : Char} (digit : Text.isDecimal c = true) : isBlank c = false := by
  have each : ∀ c ∈ Text.blanks, Text.isDecimal c = false := Text.forall_mem_of_all (by decide)
  cases blank : isBlank c with
  | false => rfl
  | true =>
    rw [each c (Text.mem_blanks blank)] at digit
    cases digit

/-- A decimal numeral has no blanks at its ends, and its characters are digits in the wide
sense. -/
theorem digitLike_of_isDecimalOf {digits : Text} {number : Nat}
    (decimal : Numeral.IsDecimalOf digits number) :
    Text.IsTrimmed digits ∧ (!digits.isEmpty && digits.all Text.isDigitLike) = true := by
  obtain ⟨some, -, values, each, -⟩ := decimal
  have all := (Numeral.forall₂_decimalDigit?.1 each).1
  refine ⟨Text.isTrimmed_of_forall fun c member => isBlank_of_isDecimal (all c member), ?_⟩
  rw [Bool.and_eq_true, List.all_eq_true]
  refine ⟨by simpa using some, fun c member => ?_⟩
  rw [Text.isDigitLike, all c member, Bool.true_or]

/-- What is read as a count is what the value denotes. -/
theorem countValue_eq_ok {key : Text} {given : Setting} (which : Count) {number : Int} :
    countValue key given = .ok number ↔ given.Denotes (.count which number) := by
  constructor
  · intro found
    cases given with
    | integer value =>
      simp only [countValue] at found
      split at found
      · cases found
      · rename_i positive
        cases found
        exact .integer which (Int.not_lt.1 positive)
    | text value =>
      simp only [countValue] at found
      split at found
      · rename_i digits
        split at found
        · rename_i read
          cases found
          have some : Text.trim value ≠ [] := by
            rintro none
            simp [none] at digits
          obtain ⟨lead, trail, before, after, whole⟩ := Text.exists_trim value
          have denotes := Setting.Denotes.numeral which before after
            ((Numeral.ofDigitText_eq_ok some).1 read)
          rwa [← whole] at denotes
        · cases found
      · cases found
    | null | flag | fraction | infinite | notANumber | list | mapping => cases found
  · intro denotes
    cases denotes with
    | integer _ positive => exact if_neg (Int.not_lt.2 positive)
    | @numeral _ lead digits trail number before after decimal =>
      obtain ⟨trimmed, wide⟩ := digitLike_of_isDecimalOf decimal
      have read := (Numeral.ofDigitText_eq_ok decimal.1).2 decimal
      simp only [countValue, Text.trim_eq before after trimmed, wide, if_true, read]

/-- A setting whose key names no option asks for nothing, and any other for what its value
denotes. -/
theorem changeOf_eq_ok {key : Text} {given : Setting} {change : Option Change} :
    changeOf key given = .ok change ↔
      (change = none ∧ ∀ option : OptionName, snakeCase key ≠ option.name) ∨
        ∃ asked, change = some asked ∧ snakeCase key = asked.option.name ∧ given.Denotes asked := by
  rw [changeOf]
  cases named : optionFor? key with
  | none =>
    have foreign := optionFor?_eq_none.1 named
    simp only [Except.ok.injEq]
    constructor
    · rintro rfl
      exact .inl ⟨rfl, foreign⟩
    · rintro (⟨rfl, -⟩ | ⟨asked, -, same, -⟩)
      · rfl
      · exact absurd same (foreign asked.option)
  | some option =>
    have mine := optionFor?_eq_some.1 named
    -- Only the option that the key names can be asked for.
    have only : ∀ other : OptionName, snakeCase key = other.name → other = option :=
      fun other same => OptionName.name_injective (same.symm.trans mine)
    cases option with
    | switch which =>
      dsimp only
      constructor
      · intro found
        cases value : switchValue? given with
        | none => simp [value] at found
        | some on =>
          simp only [value, Except.ok.injEq] at found
          exact .inr ⟨.switch which on, found.symm, mine, (switchValue?_eq_some which).1 value⟩
      · rintro (⟨-, foreign⟩ | ⟨asked, rfl, same, denotes⟩)
        · exact absurd mine (foreign _)
        · cases asked with
          | switch other on =>
            cases only _ same
            rw [(switchValue?_eq_some which).2 denotes]
          | count other number => cases only _ same
    | count which =>
      dsimp only
      rw [Fault.bind_eq_ok]
      constructor
      · rintro ⟨number, value, found⟩
        cases found
        exact .inr ⟨.count which number, rfl, mine, (countValue_eq_ok which).1 value⟩
      · rintro (⟨-, foreign⟩ | ⟨asked, rfl, same, denotes⟩)
        · exact absurd mine (foreign _)
        · cases asked with
          | switch other on => cases only _ same
          | count other number =>
            cases only _ same
            exact ⟨number, (countValue_eq_ok which).2 denotes, rfl⟩

end Config

/-- A value denotes at most one thing for an option. -/
theorem Setting.Denotes.unique {given : Setting} {first second : Change}
    (one : given.Denotes first) (other : given.Denotes second)
    (same : first.option = second.option) : first = second := by
  cases first with
  | switch which on =>
    cases second with
    | switch which' on' =>
      cases same
      have here := (Config.switchValue?_eq_some which).2 one
      rw [(Config.switchValue?_eq_some which).2 other] at here
      cases here
      rfl
    | count which' number => cases same
  | count which number =>
    cases second with
    | switch which' on => cases same
    | count which' number' =>
      cases same
      have here : Config.countValue [] given = .ok number :=
        (Config.countValue_eq_ok which).2 one
      rw [(Config.countValue_eq_ok which).2 other] at here
      cases here
      rfl

end Sm83Cost
