import Sm83Cost.Proofs.Config.Settings
import Sm83Cost.Proofs.Repetition
import Sm83Cost.Proofs.Store.Written

/-!
# Settings that are refused

Settings are read up to the first whose key names an option and whose value is of no use for it.
What is reported then should name that key, and it does so but for values from which something
else comes of it (`OptionName.Escapes`).  A count that is given as a text is asked whether it is
made of digits in the wide sense, and only then read; ornamental digits and too many digits pass
the question and fail in the reading.  And a number that is too long to be written cannot be shown
in the report.

`changeOf_eq_error` says this for one setting, `ofSettings_outcome` for all of them, and
`exists_numeral_iff` says exactly when something else is reported.
`ofSettings_reports_unless_escaped` adds the settings that an environment gives.
-/

namespace Sm83Cost

set_option autoImplicit false

/-! ## What is reported -/

/-- The text passes for digits: it is not blank, and between its blanks are digits in the wide
sense only. -/
def Setting.PassesForDigits (text : Text) : Prop :=
  Text.trim text ≠ [] ∧ ∀ c ∈ Text.trim text, Text.isDigitLike c = true

theorem Setting.passesForDigits_iff {text : Text} :
    PassesForDigits text ↔
      (!(Text.trim text).isEmpty && (Text.trim text).all Text.isDigitLike) = true := by
  simp [PassesForDigits]

/-- The value is of no use for the option, and something else comes of it than a report that names
the key. -/
inductive OptionName.Escapes (option : OptionName) : Setting → Numeral.Error → Prop where
  /-- A count begins with more decimal digits than a numeral may have. -/
  | tooManyDigits {which : Count} {text : Text} (mine : option = .count which)
      (digits : Setting.PassesForDigits text)
      (long : Numeral.decimalLimit < ((Text.trim text).takeWhile Text.isDecimal).length) :
      Escapes option (.text text)
        (.tooManyDigits ((Text.trim text).takeWhile Text.isDecimal).length)
  /-- A count has an ornamental digit. -/
  | ornamental {which : Count} {text : Text} (mine : option = .count which)
      (digits : Setting.PassesForDigits text)
      (short : ((Text.trim text).takeWhile Text.isDecimal).length ≤ Numeral.decimalLimit)
      (ornament : ∃ c ∈ Text.trim text, Text.isDecimal c = false) :
      Escapes option (.text text) (.malformed (Text.trim text))
  /-- The value cannot be shown. -/
  | tooLong {given : Setting} (useless : ¬ given.IsUsableFor option)
      (long : given.isWritable = false) : Escapes option given .tooLongToWrite

/-- What is reported of a value that is of no use for the option that its key names. -/
inductive OptionName.Reports (option : OptionName) (key : Text) (given : Setting) :
    ConfigError → Prop where
  | named (stays : ∀ cause, ¬ option.Escapes given cause) :
      Reports option key given (.unusable key given option.expected)
  | escaped {cause : Numeral.Error} (escapes : option.Escapes given cause) :
      Reports option key given (.numeral cause)

namespace Config

/-- A value that does not pass for the digits of a count is refused with its key, if it can be
shown. -/
theorem reports_refusal {option : OptionName} {given : Setting}
    (useless : ¬ given.IsUsableFor option)
    (plain : ∀ text which, given = .text text → option = .count which →
      ¬ Setting.PassesForDigits text) (key : Text) :
    option.Reports key given (.refusal key given option.expected) := by
  rw [ConfigError.refusal]
  split
  · rename_i writable
    apply OptionName.Reports.named
    intro cause escapes
    cases escapes with
    | tooManyDigits mine digits => exact plain _ _ rfl mine digits
    | ornamental mine digits => exact plain _ _ rfl mine digits
    | tooLong _ long =>
      rw [long] at writable
      cases writable
  · rename_i long
    exact .escaped (.tooLong useless (Bool.eq_false_iff.2 long))

/-- A count that is refused is reported as it should be. -/
theorem reports_of_countValue {key : Text} {given : Setting} {which : Count} {error : ConfigError}
    (useless : ¬ given.IsUsableFor (.count which)) (refused : countValue key given = .error error) :
    (OptionName.count which).Reports key given error := by
  cases given with
  | text text =>
    by_cases digits : Setting.PassesForDigits text
    · simp only [countValue, if_pos (Setting.passesForDigits_iff.1 digits)] at refused
      cases read : Numeral.ofDigitText (Text.trim text) with
      | ok number => simp [read] at refused
      | error cause =>
        simp only [read, Except.error.injEq] at refused
        subst refused
        rcases Numeral.ofDigitText_eq_error digits.1 read with ⟨long, rfl⟩ | ⟨short, ornament, rfl⟩
        · exact .escaped (.tooManyDigits rfl digits long)
        · exact .escaped (.ornamental rfl digits short ornament)
    · have fails := mt Setting.passesForDigits_iff.2 digits
      simp only [countValue, if_neg fails, Except.error.injEq] at refused
      rw [← refused]
      apply reports_refusal useless
      rintro _ _ same -
      cases same
      exact digits
  | integer number =>
    simp only [countValue] at refused
    split at refused
    · rw [← Except.error.inj refused]
      exact reports_refusal useless (fun _ _ same => by cases same) key
    · cases refused
  | null | flag | fraction | infinite | notANumber | list | mapping =>
    rw [← Except.error.inj refused]
    exact reports_refusal useless (fun _ _ same => by cases same) key

/-- One setting is refused exactly if its key names an option that its value is of no use for. -/
theorem changeOf_eq_error {key : Text} {given : Setting} {error : ConfigError}
    (refused : changeOf key given = .error error) :
    ∃ option : OptionName, snakeCase key = option.name ∧ ¬ given.IsUsableFor option ∧
      option.Reports key given error := by
  cases named : optionFor? key with
  | none =>
    rw [changeOf, named] at refused
    cases refused
  | some option =>
    have mine := optionFor?_eq_some.1 named
    have useless : ¬ given.IsUsableFor option := by
      rintro ⟨asked, rfl, denotes⟩
      rw [changeOf_eq_ok.2 (.inr ⟨asked, rfl, mine, denotes⟩)] at refused
      cases refused
    refine ⟨option, mine, useless, ?_⟩
    rw [changeOf, named] at refused
    cases option with
    | switch which =>
      dsimp only at refused
      cases value : switchValue? given with
      | some on => simp [value] at refused
      | none =>
        simp only [value, Except.error.injEq] at refused
        rw [← refused]
        exact reports_refusal useless (fun _ _ _ same => by cases same) key
    | count which =>
      dsimp only at refused
      cases value : countValue key given with
      | ok number => simp [value, bind, Except.bind, pure, Except.pure] at refused
      | error cause =>
        rw [value] at refused
        cases refused
        exact reports_of_countValue useless value

/-! ## How the reading of settings comes out -/

/-- Every value can be used for the option that its key names. -/
def AllUsable (settings : List (Text × Setting)) : Prop :=
  ∀ setting ∈ settings, ∀ option : OptionName,
    snakeCase setting.1 = option.name → setting.2.IsUsableFor option

/-- There is a configuration, or the first setting that is of no use for its option is reported. -/
inductive Outcome (settings : List (Text × Setting)) : Except ConfigError Config → Prop where
  | read (config : Config) (usable : AllUsable settings) : Outcome settings (.ok config)
  | refused {before : List (Text × Setting)} {key : Text} {given : Setting}
      {after : List (Text × Setting)} {option : OptionName} {error : ConfigError}
      (split : settings = before ++ (key, given) :: after) (earlier : AllUsable before)
      (names : snakeCase key = option.name) (useless : ¬ given.IsUsableFor option)
      (reports : option.Reports key given error) : Outcome settings (.error error)

/-- A setting that can be read is of use for the option that its key names. -/
theorem usable_of_changeOf {key : Text} {given : Setting} {change : Option Change}
    (found : changeOf key given = .ok change) {option : OptionName}
    (names : snakeCase key = option.name) : given.IsUsableFor option := by
  rcases changeOf_eq_ok.1 found with ⟨-, foreign⟩ | ⟨asked, -, same, denotes⟩
  · exact absurd names (foreign option)
  · exact ⟨asked, OptionName.name_injective (same.symm.trans names), denotes⟩

theorem ofSettings_outcome (settings : Store Setting) :
    Outcome settings.pairs (ofSettings settings) := by
  rw [ofSettings, foldlM_read]
  cases made : settings.pairs.mapM fun setting => changeOf setting.1 setting.2 with
  | ok changes =>
    apply Outcome.read
    intro setting member option names
    obtain ⟨change, -, found⟩ := Traversal.exists_of_mem (Traversal.mapM_eq_ok.1 made) member
    exact usable_of_changeOf found names
  | error cause =>
    obtain ⟨before, ⟨key, given⟩, after, split, reads, fails⟩ := Traversal.mapM_eq_error.1 made
    obtain ⟨option, names, useless, reports⟩ := changeOf_eq_error fails
    refine .refused split ?_ names useless reports
    intro setting member option names
    obtain ⟨change, found⟩ := reads setting member
    exact usable_of_changeOf found names

/-! ## Texts -/

/-- A text that can be used for a count is a decimal numeral between its blanks. -/
theorem decimal_of_usable {which : Count} {text : Text}
    (usable : (Setting.text text).IsUsableFor (.count which)) :
    ∃ number, Numeral.IsDecimalOf (Text.trim text) number := by
  obtain ⟨change, mine, denotes⟩ := usable
  cases denotes with
  | word => cases mine
  | @numeral _ lead digits trail number before after decimal =>
    rw [Text.trim_eq before after (digitLike_of_isDecimalOf decimal).1]
    exact ⟨number, decimal⟩

/-- Of the texts, those escape that pass for the digits of a count and are of no use for it. -/
theorem exists_escapes_text {option : OptionName} {text : Text} :
    (∃ cause, option.Escapes (.text text) cause) ↔
      (∃ which, option = .count which) ∧ Setting.PassesForDigits text ∧
        ¬ (Setting.text text).IsUsableFor option := by
  constructor
  · rintro ⟨cause, escapes⟩
    cases escapes with
    | @tooManyDigits which _ mine digits long =>
      refine ⟨⟨which, mine⟩, digits, fun usable => ?_⟩
      subst mine
      obtain ⟨number, -, short, -⟩ := decimal_of_usable usable
      exact absurd long (Nat.not_lt.2 ((List.takeWhile_prefix _).length_le.trans short))
    | @ornamental which _ mine digits short ornament =>
      refine ⟨⟨which, mine⟩, digits, fun usable => ?_⟩
      subst mine
      obtain ⟨number, -, -, values, each, -⟩ := decimal_of_usable usable
      obtain ⟨c, member, other⟩ := ornament
      rw [(Numeral.forall₂_decimalDigit?.1 each).1 c member] at other
      cases other
    | tooLong _ long => cases long
  · rintro ⟨⟨which, rfl⟩, digits, useless⟩
    cases read : Numeral.ofDigitText (Text.trim text) with
    | ok number =>
      have decimal := (Numeral.ofDigitText_eq_ok digits.1).1 read
      obtain ⟨lead, trail, before, after, whole⟩ := Text.exists_trim text
      refine absurd ⟨.count which number, rfl, ?_⟩ useless
      have denotes := Setting.Denotes.numeral which before after decimal
      rwa [← whole] at denotes
    | error cause =>
      rcases Numeral.ofDigitText_eq_error digits.1 read with ⟨long, rfl⟩ | ⟨short, ornament, rfl⟩
      · exact ⟨_, .tooManyDigits rfl digits long⟩
      · exact ⟨_, .ornamental rfl digits short ornament⟩

/-! ## Settings that are not reported under their keys -/

/-- What escapes is of no use. -/
theorem useless_of_escapes {option : OptionName} {given : Setting} {cause : Numeral.Error}
    (escapes : option.Escapes given cause) : ¬ given.IsUsableFor option := by
  cases given with
  | text text => exact (exists_escapes_text.1 ⟨cause, escapes⟩).2.2
  | null | flag | integer | fraction | infinite | notANumber | list | mapping =>
    cases escapes with
    | tooLong useless _ => exact useless

/-- The first setting that is of no use for its option escapes. -/
def FirstEscapes (settings : List (Text × Setting)) : Prop :=
  ∃ before key given after, settings = before ++ (key, given) :: after ∧ AllUsable before ∧
    ∃ (option : OptionName) (cause : Numeral.Error),
      snakeCase key = option.name ∧ option.Escapes given cause

/-- Something else than a report with a key comes of settings exactly if the first one that is of
no use escapes. -/
theorem exists_numeral_iff (settings : Store Setting) :
    (∃ cause, ofSettings settings = .error (.numeral cause)) ↔ FirstEscapes settings.pairs := by
  constructor
  · rintro ⟨cause, failed⟩
    have outcome := ofSettings_outcome settings
    rw [failed] at outcome
    cases outcome with
    | refused split earlier names _ reports =>
      cases reports with
      | escaped escapes => exact ⟨_, _, _, _, split, earlier, _, _, names, escapes⟩
  · rintro ⟨before, key, given, after, split, earlier, option, cause, names, escapes⟩
    cases here : changeOf key given with
    | ok change => exact absurd (usable_of_changeOf here names) (useless_of_escapes escapes)
    | error error =>
      obtain ⟨other, named, -, reports⟩ := changeOf_eq_error here
      obtain rfl := OptionName.name_injective (names.symm.trans named)
      cases reports with
      | named stays => exact absurd escapes (stays cause)
      | @escaped cause' _ =>
        have stops : settings.pairs.mapM (fun setting => changeOf setting.1 setting.2) =
            .error (.numeral cause') := by
          refine Traversal.mapM_eq_error.2 ⟨before, (key, given), after, split, ?_, here⟩
          exact fun setting member => exists_change (earlier setting member)
        refine ⟨cause', ?_⟩
        rw [ofSettings, foldlM_read, stops]
        rfl

/-! ## The settings of an environment -/

variable (environment : Store Text)

/-- The variables that are settings give their keys in order. -/
theorem keys_settingsOf :
    (settingsOf (environment.map .text)).keys =
      ((environment.keys.filterMap (Text.after? variableStart)).map Text.lower).eraseDups := by
  rw [settingsOf, Store.keys_ofList]
  apply congrArg
  simp only [Store.map, Store.keys, List.filterMap_map, List.map_filterMap]
  apply List.filterMap_congr
  rintro ⟨name, text⟩ -
  cases here : Text.after? variableStart name <;> simp [here]

/-- A key has the text of the last variable that stands for it. -/
theorem get?_settingsOf (key : Text) :
    (settingsOf (environment.map .text)).get? key =
      ((environment.pairs.filter fun entry =>
          (Text.after? variableStart entry.1).map Text.lower = some key).map fun entry =>
        Setting.text entry.2).getLast? := by
  rw [settingsOf, Store.get?_ofList]
  apply congrArg
  simp only [Store.map]
  induction environment.pairs with
  | nil => rfl
  | cons entry rest ih =>
    obtain ⟨name, text⟩ := entry
    cases here : Text.after? variableStart name with
    | none => simpa [here] using ih
    | some rest =>
      by_cases same : Text.lower rest = key
      · simpa [here, same] using ih
      · simpa [here, same] using ih

/-! ## Bad settings are reported under their keys, but for those that escape -/

/-- **The first setting that is of no use is reported under its key, unless its value escapes.**
Settings with values of any shape give a configuration if every value can be used for the option
that its key names.  Otherwise the first setting of which this is not so is reported; the report is
`unusable` with its key, its value and what was expected, and something else exactly if the value
is a text that passes for the digits of a count or has a number that cannot be written.  The same
holds of the settings that an environment gives: their keys are what follows the common beginning of
variables, in small letters and in order, and a key has the text of the last variable for it.  Of
the texts only those escape that pass for the digits of a count and are no decimal numeral. -/
theorem ofSettings_reports_unless_escaped (settings : Store Setting)
    (environment : Store Text) :
    Outcome settings.pairs (ofSettings settings) ∧
    ((∃ cause, ofSettings settings = .error (.numeral cause)) ↔ FirstEscapes settings.pairs) ∧
    Outcome (settingsOf (environment.map .text)).pairs (ofEnvironment (environment.map .text)) ∧
    ((∃ cause, ofEnvironment (environment.map .text) = .error (.numeral cause)) ↔
      FirstEscapes (settingsOf (environment.map .text)).pairs) ∧
    (settingsOf (environment.map .text)).keys =
      ((environment.keys.filterMap (Text.after? variableStart)).map Text.lower).eraseDups ∧
    (∀ key, (settingsOf (environment.map .text)).get? key =
      ((environment.pairs.filter fun entry =>
          (Text.after? variableStart entry.1).map Text.lower = some key).map fun entry =>
        Setting.text entry.2).getLast?) ∧
    ∀ (option : OptionName) (text : Text), (∃ cause, option.Escapes (.text text) cause) ↔
      (∃ which, option = .count which) ∧ Setting.PassesForDigits text ∧
        ¬ (Setting.text text).IsUsableFor option :=
  ⟨ofSettings_outcome settings, exists_numeral_iff settings, ofSettings_outcome _,
    exists_numeral_iff _, keys_settingsOf environment, get?_settingsOf environment,
    fun _ _ => exists_escapes_text⟩

/-- An ornamental digit passes for a digit, and the key of the count is not reported. -/
theorem ornamental_count_is_not_reported :
    ofSettings ⟨[("predefBytes", .text "²")]⟩ = .error (.numeral (.malformed "²")) ∧
      ¬ ∀ settings, (∃ config, ofSettings settings = .ok config) ∨
        ∃ key given expected, ofSettings settings = .error (.unusable key given expected) := by
  have fails : ofSettings ⟨[("predefBytes", .text "²")]⟩ = .error (.numeral (.malformed "²")) := by
    rfl
  refine ⟨fails, fun reported => ?_⟩
  rcases reported ⟨[("predefBytes", .text "²")]⟩ with ⟨config, done⟩ | ⟨key, given, expected, named⟩
  · rw [fails] at done
    cases done
  · rw [fails] at named
    cases named

end Config

end Sm83Cost
