import Mathlib.Data.List.Forall2
import Mathlib.Data.List.Perm.Basic
import Mathlib.Data.List.ReduceOption
import Sm83Cost.Proofs.Config.Values
import Sm83Cost.Proofs.Cost.Nonnegative
import Sm83Cost.Proofs.Traversal

/-!
# What settings make of a configuration

Settings are read one after another.  Each asks for a change, or for nothing if its key names no
option, and what is asked for is carried out in order (`foldlM_read`).  An option therefore ends
with what the last setting for it denotes, and keeps its default if no setting is for it
(`ofSettings_eq_ok`).

What a configuration comes out as is thus a matter of the values that are given for each option,
one option at a time (`valuesFor`).  Settings for different options may change places, keys that
name no option may come and go, and a key may be written in camel case or with underscores.
-/

namespace Sm83Cost

set_option autoImplicit false

/-! ## The changes that settings ask for -/

/-- The value can be used for the option. -/
def Setting.IsUsableFor (given : Setting) (option : OptionName) : Prop :=
  ∃ change : Change, change.option = option ∧ given.Denotes change

namespace Config

/-- Settings are read by finding out what each asks for, and carrying that out in order. -/
theorem foldlM_read (settings : List (Text × Setting)) (start : Config) :
    settings.foldlM read start =
      (settings.mapM fun setting => changeOf setting.1 setting.2) >>= fun changes =>
        .ok (changes.reduceOption.foldl apply start) := by
  induction settings generalizing start with
  | nil => rfl
  | cons setting rest ih =>
    rw [List.foldlM_cons, List.mapM_cons, read]
    cases changeOf setting.1 setting.2 with
    | error cause => rfl
    | ok change =>
      have behind := ih (change.elim start start.apply)
      cases others : rest.mapM fun setting => changeOf setting.1 setting.2 with
      | error cause =>
        rw [others] at behind
        exact behind
      | ok changes =>
        rw [others] at behind
        cases change with
        | none => exact behind
        | some asked => exact behind

/-- Of the changes of an option, the last one counts. -/
theorem value_foldl_apply (changes : List Change) (start : Config) (option : OptionName) :
    (changes.foldl apply start).value option =
      (changes.filter (·.option = option)).getLast?.getD (start.value option) := by
  induction changes generalizing start with
  | nil => rfl
  | cons change rest ih =>
    rw [List.foldl_cons, ih, value_apply, List.filter_cons]
    by_cases same : change.option = option
    · simp [same, List.getLast?_cons]
    · simp [same, Ne.symm same]

/-! ## The values for one option -/

/-- The values that settings give for an option, in order. -/
def valuesFor (option : OptionName) (settings : List (Text × Setting)) : List Setting :=
  (settings.filter fun setting => snakeCase setting.1 = option.name).map Prod.snd

variable {option : OptionName}

theorem valuesFor_append (first second : List (Text × Setting)) :
    valuesFor option (first ++ second) = valuesFor option first ++ valuesFor option second := by
  simp [valuesFor]

theorem valuesFor_cons_self {key : Text} (names : snakeCase key = option.name) (given : Setting)
    (rest : List (Text × Setting)) :
    valuesFor option ((key, given) :: rest) = given :: valuesFor option rest := by
  simp [valuesFor, names]

theorem valuesFor_cons_of_ne {key : Text} (foreign : snakeCase key ≠ option.name)
    (given : Setting) (rest : List (Text × Setting)) :
    valuesFor option ((key, given) :: rest) = valuesFor option rest := by
  simp [valuesFor, foreign]

theorem mem_valuesFor {settings : List (Text × Setting)} {given : Setting} :
    given ∈ valuesFor option settings ↔
      ∃ key, (key, given) ∈ settings ∧ snakeCase key = option.name := by
  simp [valuesFor]

theorem valuesFor_eq_nil {settings : List (Text × Setting)} :
    valuesFor option settings = [] ↔
      ∀ setting ∈ settings, snakeCase setting.1 ≠ option.name := by
  simp [valuesFor, List.filter_eq_nil_iff]

/-- The last value for an option stands in the last setting whose key names it. -/
theorem getLast?_valuesFor {settings : List (Text × Setting)} {given : Setting} :
    (valuesFor option settings).getLast? = some given ↔
      ∃ before key after, settings = before ++ (key, given) :: after ∧
        snakeCase key = option.name ∧
        ∀ later ∈ after, snakeCase later.1 ≠ option.name := by
  constructor
  · intro last
    induction settings with
    | nil => cases last
    | cons setting rest ih =>
      obtain ⟨key, value⟩ := setting
      cases none : valuesFor option rest with
      | nil =>
        by_cases names : snakeCase key = option.name
        · rw [valuesFor_cons_self names, none] at last
          cases last
          exact ⟨[], key, rest, rfl, names, valuesFor_eq_nil.1 none⟩
        · rw [valuesFor_cons_of_ne names, none] at last
          cases last
      | cons first others =>
        have there : (valuesFor option rest).getLast? = some given := by
          by_cases names : snakeCase key = option.name
          · rw [valuesFor_cons_self names, none, List.getLast?_cons_cons] at last
            rw [none, last]
          · rwa [valuesFor_cons_of_ne names] at last
        obtain ⟨before, key', after, rfl, names, behind⟩ := ih there
        exact ⟨(key, value) :: before, key', after, rfl, names, behind⟩
  · rintro ⟨before, key, after, rfl, names, behind⟩
    rw [valuesFor_append, valuesFor_cons_self names, valuesFor_eq_nil.2 behind,
      List.getLast?_concat]

/-! ## What an option ends with -/

/-- The values that are given for an option settle what it ends with: all of them can be used, and
the last one denotes it, or it is the default and there is none. -/
structure Settles (option : OptionName) (values : List Setting) (final : Change) : Prop where
  usable : ∀ given ∈ values, given.IsUsableFor option
  last : ∀ given, values.getLast? = some given → given.Denotes final
  default : values = [] → final = ({} : Config).value option

/-- Values settle at most one outcome. -/
theorem Settles.unique {values : List Setting} {first second : Change}
    (one : Settles option values first) (other : Settles option values second)
    (same : first.option = second.option) : first = second := by
  cases known : values.getLast? with
  | none =>
    have none := List.getLast?_eq_none_iff.1 known
    rw [one.default none, other.default none]
  | some given => exact (one.last given known).unique (other.last given known) same

/-- The changes of an option are what the values for it denote. -/
theorem forall₂_denotes {settings : List (Text × Setting)} {changes : List (Option Change)}
    (each : List.Forall₂ (fun setting change => changeOf setting.1 setting.2 = .ok change)
      settings changes) (option : OptionName) :
    List.Forall₂ Setting.Denotes (valuesFor option settings)
      (changes.reduceOption.filter (·.option = option)) := by
  induction each with
  | nil => exact .nil
  | @cons setting change settings changes found others ih =>
    obtain ⟨key, given⟩ := setting
    rcases changeOf_eq_ok.1 found with ⟨rfl, foreign⟩ | ⟨asked, rfl, names, denotes⟩
    · rwa [valuesFor_cons_of_ne (foreign option), List.reduceOption_cons_of_none]
    · rw [List.reduceOption_cons_of_some, List.filter_cons]
      by_cases same : asked.option = option
      · subst same
        rw [valuesFor_cons_self names, if_pos (decide_eq_true rfl)]
        exact .cons denotes ih
      · have other : snakeCase key ≠ option.name := fun mine =>
          same (OptionName.name_injective (names.symm.trans mine))
        rwa [valuesFor_cons_of_ne other, if_neg (by simpa using same)]

/-- Changes of an option settle what it ends with. -/
theorem settles_of_forall₂ {values : List Setting} {changes : List Change}
    (each : List.Forall₂ Setting.Denotes values changes)
    (mine : ∀ change ∈ changes, change.option = option) :
    Settles option values (changes.getLast?.getD (({} : Config).value option)) where
  usable := by
    intro given member
    obtain ⟨change, among, denotes⟩ := Traversal.exists_of_mem each member
    exact ⟨change, mine change among, denotes⟩
  last := by
    intro given known
    have beside := Traversal.getLast?_related each
    rw [known] at beside
    generalize changes.getLast? = last at beside ⊢
    cases beside with
    | some denotes => exact denotes
  default := by
    rintro rfl
    rw [List.forall₂_nil_left_iff.1 each]
    rfl

/-- A setting can be read if its value can be used for the option that its key names. -/
theorem exists_change {key : Text} {given : Setting}
    (usable : ∀ option : OptionName, snakeCase key = option.name → given.IsUsableFor option) :
    ∃ change, changeOf key given = .ok change := by
  by_cases foreign : ∀ option : OptionName, snakeCase key ≠ option.name
  · exact ⟨none, changeOf_eq_ok.2 (.inl ⟨rfl, foreign⟩)⟩
  · obtain ⟨option, names⟩ := not_forall_not.1 foreign
    obtain ⟨asked, rfl, denotes⟩ := usable option names
    exact ⟨some asked, changeOf_eq_ok.2 (.inr ⟨asked, rfl, names, denotes⟩)⟩

/-- Settings give a configuration exactly if the values for each option settle what it has. -/
theorem ofSettings_eq_ok {settings : List (Text × Setting)} {config : Config} :
    ofSettings ⟨settings⟩ = .ok config ↔
      ∀ option, Settles option (valuesFor option settings) (config.value option) := by
  -- What is read from settings is settled by them.
  have settled : ∀ {result : Config}, ofSettings ⟨settings⟩ = .ok result →
      ∀ option, Settles option (valuesFor option settings) (result.value option) := by
    intro result done option
    rw [ofSettings, foldlM_read] at done
    obtain ⟨changes, made, same⟩ := Fault.bind_eq_ok.1 done
    cases same
    rw [value_foldl_apply]
    apply settles_of_forall₂ (forall₂_denotes (Traversal.mapM_eq_ok.1 made) option)
    intro change member
    simpa using (List.mem_filter.1 member).2
  constructor
  · exact settled
  · intro each
    have reads : ∀ setting ∈ settings, ∃ change, changeOf setting.1 setting.2 = .ok change := by
      rintro ⟨key, given⟩ member
      apply exists_change
      intro option names
      exact (each option).usable given (mem_valuesFor.2 ⟨key, member, names⟩)
    obtain ⟨changes, made⟩ := Traversal.exists_mapM_eq_ok reads
    have done : ofSettings ⟨settings⟩ = .ok (changes.reduceOption.foldl apply {}) := by
      rw [ofSettings, foldlM_read, made]
      rfl
    rw [done]
    apply congrArg
    apply ext_value
    intro option
    apply (settled done option).unique (each option)
    rw [option_value, option_value]

/-! ## Settings that give the same configuration -/

/-- Settings that give the same values for each option give the same configuration. -/
theorem ofSettings_congr {first second : List (Text × Setting)}
    (same : ∀ option, valuesFor option first = valuesFor option second) (config : Config) :
    ofSettings ⟨first⟩ = .ok config ↔ ofSettings ⟨second⟩ = .ok config := by
  simp only [ofSettings_eq_ok, same]

/-- Neighbours change places. -/
theorem valuesFor_swap {first second : Text × Setting}
    (differs : snakeCase first.1 ≠ snakeCase second.1) (before after : List (Text × Setting)) :
    valuesFor option (before ++ first :: second :: after) =
      valuesFor option (before ++ second :: first :: after) := by
  obtain ⟨key, given⟩ := first
  obtain ⟨other, value⟩ := second
  rw [valuesFor_append, valuesFor_append]
  by_cases mine : snakeCase key = option.name
  · have foreign : snakeCase other ≠ option.name := fun same => differs (mine.trans same.symm)
    rw [valuesFor_cons_self mine, valuesFor_cons_of_ne foreign, valuesFor_cons_of_ne foreign,
      valuesFor_cons_self mine]
  · by_cases names : snakeCase other = option.name
    · rw [valuesFor_cons_of_ne mine, valuesFor_cons_self names, valuesFor_cons_self names,
        valuesFor_cons_of_ne mine]
    · simp only [valuesFor_cons_of_ne mine, valuesFor_cons_of_ne names]

/-- A key is written in another way. -/
theorem valuesFor_respelled {key other : Text} (same : snakeCase key = snakeCase other)
    (given : Setting) (before after : List (Text × Setting)) :
    valuesFor option (before ++ (key, given) :: after) =
      valuesFor option (before ++ (other, given) :: after) := by
  rw [valuesFor_append, valuesFor_append]
  by_cases names : snakeCase other = option.name
  · rw [valuesFor_cons_self (same.trans names), valuesFor_cons_self names]
  · have foreign : snakeCase key ≠ option.name := same ▸ names
    rw [valuesFor_cons_of_ne foreign, valuesFor_cons_of_ne names]

/-- A setting whose key names no option is passed over, whatever its value. -/
theorem ofSettings_insert {key : Text}
    (foreign : ∀ option : OptionName, snakeCase key ≠ option.name) (given : Setting)
    (before after : List (Text × Setting)) :
    ofSettings ⟨before ++ (key, given) :: after⟩ = ofSettings ⟨before ++ after⟩ := by
  have passed : ∀ config : Config, read config (key, given) = .ok config := by
    intro config
    rw [read, changeOf_eq_ok.2 (.inl ⟨rfl, foreign⟩)]
    rfl
  simp only [ofSettings, List.foldlM_append, List.foldlM_cons, passed]
  rfl

/-! ## Every configuration is the outcome of some settings -/

/-- The value of an option, as a truth value or an integer. -/
def plainValue (config : Config) (option : OptionName) : Setting :=
  match config.value option with
  | .switch _ on => .flag on
  | .count _ number => .integer number

theorem denotes_plainValue {config : Config} (sound : config.Nonnegative) (option : OptionName) :
    (config.plainValue option).Denotes (config.value option) := by
  rcases option with which | which
  · cases which <;> exact .flag _ _
  · cases which with
    | predefBytes => exact .integer _ (sound .call).1
    | predefCycles => exact .integer _ (sound .call).2
    | predefJumpBytes => exact .integer _ (sound .jump).1
    | predefJumpCycles => exact .integer _ (sound .jump).2

/-- One setting for each option, in any order, gives each option its value. -/
theorem valuesFor_of_perm {keys : OptionName → Text}
    (named : ∀ option, snakeCase (keys option) = option.name) {values : OptionName → Setting}
    {settings : List (Text × Setting)}
    (perm : settings.Perm (OptionName.all.map fun option => (keys option, values option)))
    (option : OptionName) : valuesFor option settings = [values option] := by
  have alone : OptionName.all.filter (fun other => other.name = option.name) = [option] := by
    have each : ∀ option ∈ OptionName.all,
        OptionName.all.filter (fun other => other.name = option.name) = [option] := by
      decide
    exact each option (OptionName.mem_all option)
  have inOrder : valuesFor option
      (OptionName.all.map fun option => (keys option, values option)) = [values option] := by
    simp [valuesFor, List.filter_map, Function.comp_def, named, alone]
  have same : (valuesFor option settings).Perm [values option] := by
    rw [← inOrder]
    exact (perm.filter _).map _
  exact List.perm_singleton.1 same

theorem ofSettings_of_perm {config : Config} {keys : OptionName → Text}
    (named : ∀ option, snakeCase (keys option) = option.name) {values : OptionName → Setting}
    (denotes : ∀ option, (values option).Denotes (config.value option))
    {settings : List (Text × Setting)}
    (perm : settings.Perm (OptionName.all.map fun option => (keys option, values option))) :
    ofSettings ⟨settings⟩ = .ok config := by
  rw [ofSettings_eq_ok]
  intro option
  rw [valuesFor_of_perm named perm option]
  constructor
  · intro given member
    rw [List.mem_singleton.1 member]
    exact ⟨config.value option, option_value config option, denotes option⟩
  · rintro given known
    cases known
    exact denotes option
  · nofun

/-! ## What settings make of a configuration -/

/-- **Of the settings for an option the last one counts, and nothing else does.**  Each option has
what the last setting whose key names it denotes, or its default if no key does.  So it matters
only which values are given for each option and in which order: settings for different options may
change places, keys that name no option may stand anywhere with any value, and the two spellings of
a name are as good as each other.  Every configuration without negative counts is what nine settings
give, in any order and with each value written in any way that denotes it. -/
theorem ofSettings_last_value :
    (∀ (settings : Store Setting) (config : Config), ofSettings settings = .ok config →
      ∀ option,
        (∃ before key given after, settings.pairs = before ++ (key, given) :: after ∧
          snakeCase key = option.name ∧ (∀ later ∈ after, snakeCase later.1 ≠ option.name) ∧
          given.Denotes (config.value option)) ∨
        (∀ setting ∈ settings.pairs, snakeCase setting.1 ≠ option.name) ∧
          config.value option = ({} : Config).value option) ∧
    (∀ first second, (∀ option, valuesFor option first = valuesFor option second) →
      ∀ config, ofSettings ⟨first⟩ = .ok config ↔ ofSettings ⟨second⟩ = .ok config) ∧
    (∀ before first second after, snakeCase first.1 ≠ snakeCase second.1 →
      ∀ config, ofSettings ⟨before ++ first :: second :: after⟩ = .ok config ↔
        ofSettings ⟨before ++ second :: first :: after⟩ = .ok config) ∧
    (∀ before key given after, (∀ option : OptionName, snakeCase key ≠ option.name) →
      ofSettings ⟨before ++ (key, given) :: after⟩ = ofSettings ⟨before ++ after⟩) ∧
    (∀ (option : OptionName) before given after config,
      ofSettings ⟨before ++ (option.name, given) :: after⟩ = .ok config ↔
        ofSettings ⟨before ++ (option.camelName, given) :: after⟩ = .ok config) ∧
    ∀ config : Config, config.Nonnegative →
      ∀ (keys : OptionName → Text) (values : OptionName → Setting),
        (∀ option, keys option = option.name ∨ keys option = option.camelName) →
        (∀ option, values option = config.plainValue option ∨
          (values option).Denotes (config.value option)) →
        ∀ settings,
          settings.Perm (OptionName.all.map fun option => (keys option, values option)) →
          ofSettings ⟨settings⟩ = .ok config := by
  refine ⟨?_, ?_, ?_, ?_, ?_, ?_⟩
  · intro settings config done option
    have settled := ofSettings_eq_ok.1 done option
    cases last : (valuesFor option settings.pairs).getLast? with
    | none =>
      have none := List.getLast?_eq_none_iff.1 last
      exact .inr ⟨valuesFor_eq_nil.1 none, settled.default none⟩
    | some given =>
      obtain ⟨before, key, after, split, names, behind⟩ := getLast?_valuesFor.1 last
      exact .inl ⟨before, key, given, after, split, names, behind, settled.last given last⟩
  · intro first second same config
    exact ofSettings_congr same config
  · intro before first second after differs config
    exact ofSettings_congr (fun option => valuesFor_swap differs before after) config
  · intro before key given after foreign
    exact ofSettings_insert foreign given before after
  · intro option before given after config
    obtain ⟨name, camel⟩ := option.snakeCase_name
    apply ofSettings_congr
    intro other
    exact valuesFor_respelled (name.trans camel.symm) given before after
  · intro config sound keys values spelled given settings perm
    refine ofSettings_of_perm ?_ ?_ perm
    · intro option
      rcases spelled option with same | same
      · rw [same]
        exact option.snakeCase_name.1
      · rw [same]
        exact option.snakeCase_name.2
    · intro option
      rcases given option with same | denotes
      · rw [same]
        exact denotes_plainValue sound option
      · exact denotes

/-- A count that is given twice, a switch, and a key that names no option. -/
theorem ofSettings_last_value_given_twice :
    let settings : List (Text × Setting) := [("predefBytes", .text " 12 "), ("colour", .null),
      ("predef_bytes", .text "7"), ("showCumulative", .text "Off")]
    let config : Config := { predefBytes := 7, showCumulative := false }
    ofSettings ⟨settings⟩ = .ok config ∧
      ((∃ before key given after, settings = before ++ (key, given) :: after ∧
          snakeCase key = "predef_bytes".toList ∧
          (∀ later ∈ after, snakeCase later.1 ≠ "predef_bytes".toList) ∧
          given.Denotes (.count .predefBytes 7)) ∨
        (∀ setting ∈ settings, snakeCase setting.1 ≠ "predef_bytes".toList) ∧
          Change.count .predefBytes 7 = .count .predefBytes 8) ∧
      ofSettings ⟨[("colour", .null), ("predefBytes", .text " 12 "), ("predef_bytes", .text "7"),
        ("showCumulative", .text "Off")]⟩ = .ok config ∧
      ofSettings ⟨[("predefBytes", .text " 12 "), ("predef_bytes", .text "7"),
        ("showCumulative", .text "Off")]⟩ = .ok config ∧
      ofSettings ⟨(OptionName.all.map fun option =>
        (option.camelName, config.plainValue option)).reverse⟩ = .ok config := by
  obtain ⟨last, -, swap, insert, -, outcome⟩ := ofSettings_last_value
  have done : ofSettings ⟨[("predefBytes", .text " 12 "), ("colour", .null),
      ("predef_bytes", .text "7"), ("showCumulative", .text "Off")]⟩ =
        .ok { predefBytes := 7, showCumulative := false } := by
    rfl
  have foreign : ∀ option : OptionName, snakeCase "colour".toList ≠ option.name := by
    have each : ∀ option ∈ OptionName.all, snakeCase "colour".toList ≠ option.name := by
      decide +kernel
    exact fun option => each option (OptionName.mem_all option)
  refine ⟨done, last _ _ done (.count .predefBytes), ?_, ?_, ?_⟩
  · exact (swap [] ("predefBytes", .text " 12 ") ("colour", .null) _ (by decide +kernel) _).1 done
  · rw [← done]
    exact (insert [("predefBytes", .text " 12 ")] "colour" .null _ foreign).symm
  · apply outcome _ _ OptionName.camelName (Config.plainValue _) (fun _ => .inr rfl)
      (fun _ => .inl rfl)
    · exact List.reverse_perm _
    · intro kind
      cases kind <;> decide

end Config

end Sm83Cost
