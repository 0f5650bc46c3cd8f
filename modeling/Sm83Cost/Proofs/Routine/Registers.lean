import Sm83Cost.Proofs.Text.Keyword
import Sm83Cost.Routine.Comments

/-!
# Registers in comments

The arguments of a routine are found in its comments by three patterns.  Lists of
inputs and single registers have a mark behind each register, so a register that
they find is a word of the comment.  A parameter needs no mark, and then its
register may be the beginning of a longer word: `@param destination` is read as
the register `de` with the description `stination`.

A register stands alone in a comment when no letter comes before it or behind it
(`StandsAlone`).  Registers that are cut off from longer words are the only ones
that need not stand alone in any comment (`registers_stand_alone_iff`).  Nothing
here depends on what a letter is, as long as letters are word characters.
-/

namespace Sm83Cost.Comments

set_option autoImplicit false

variable {part middle text line comment word description : Text} {argument : Argument}

/-! ## Parts that begin words -/

/-- The part stands in the text, and no word character comes directly before it. -/
def Begins (part text : Text) : Prop :=
  ∃ before after, text = before ++ (part ++ after) ∧ before.getLast?.any Text.isWord = false

theorem Begins.trans (inner : Begins part middle) (outer : Begins middle text) :
    Begins part text := by
  obtain ⟨before, after, rfl, apart⟩ := inner
  obtain ⟨front, back, rfl, outside⟩ := outer
  refine ⟨front ++ before, after ++ back, by simp, ?_⟩
  rw [List.getLast?_append]
  cases last : before.getLast? with
  | none => exact outside
  | some c =>
    rw [last] at apart
    exact apart

theorem begins_of_leads (leads : part <+: text) : Begins part text := by
  obtain ⟨after, rfl⟩ := leads
  exact ⟨[], after, rfl, rfl⟩

/-- What stands behind a character that is no word character begins a word. -/
theorem begins_behind {c : Char} (apart : Text.isWord c = false) (before rest : Text) :
    Begins rest (before ++ c :: rest) :=
  ⟨before ++ [c], [], by simp, by simp [apart]⟩

theorem begins_of_blanks {lead : Text} (blank : ∀ c ∈ lead, Text.isBlank c = true)
    (rest after : Text) : Begins rest (lead ++ (rest ++ after)) := by
  refine ⟨lead, after, rfl, ?_⟩
  cases last : lead.getLast? with
  | none => rfl
  | some c => exact (Text.plain_of_isBlank (blank c (List.mem_of_getLast? last))).1

theorem begins_trim (text : Text) : Begins (Text.trim text) text := by
  obtain ⟨lead, trail, blank, -, whole⟩ := Text.exists_trim text
  have begins := begins_of_blanks blank (Text.trim text) trail
  rwa [← whole] at begins

theorem begins_dropWhile (text : Text) : Begins (text.dropWhile Text.isBlank) text := by
  have blank : ∀ c ∈ text.takeWhile Text.isBlank, Text.isBlank c = true :=
    fun c => List.mem_takeWhile_imp
  have begins := begins_of_blanks blank (text.dropWhile Text.isBlank) []
  rwa [List.append_nil, List.takeWhile_append_dropWhile] at begins

theorem begins_of_restOfLine? {rest : Text} (found : restOfLine? text = some rest) :
    Begins rest text := by
  simp only [restOfLine?] at found
  split at found
  · cases found
  · cases found
    exact (begins_of_leads (List.takeWhile_prefix _)).trans (begins_dropWhile text)

/-- The first piece of a text leads it, and the others stand behind a separator. -/
theorem prefix_of_splitWhere {p : Char → Bool} {first : Text} {others : List Text}
    (split : Text.splitWhere p text = first :: others) :
    first <+: text ∧ ∀ piece ∈ others, ∃ before c, p c = true ∧ before ++ c :: piece <+: text := by
  induction text generalizing first others with
  | nil =>
    cases split
    exact ⟨List.prefix_rfl, List.forall_mem_nil _⟩
  | cons c rest ih =>
    obtain ⟨next, more, later⟩ := List.exists_cons_of_ne_nil (Text.splitWhere_ne_nil p rest)
    obtain ⟨leads, behind⟩ := ih later
    -- What stands behind a separator of the rest does so in the whole text.
    have further : ∀ piece ∈ more,
        ∃ before c', p c' = true ∧ before ++ c' :: piece <+: c :: rest := by
      intro piece member
      obtain ⟨before, c', separates, within⟩ := behind piece member
      exact ⟨c :: before, c', separates, List.cons_prefix_cons.2 ⟨rfl, within⟩⟩
    rw [Text.splitWhere, later] at split
    split at split
    · rename_i separates
      cases split
      refine ⟨List.nil_prefix, List.forall_mem_cons.2 ⟨⟨[], c, separates, ?_⟩, further⟩⟩
      exact List.cons_prefix_cons.2 ⟨rfl, leads⟩
    · cases split
      exact ⟨List.cons_prefix_cons.2 ⟨rfl, leads⟩, further⟩

/-- The pieces of a text begin words, if its separators are no word characters. -/
theorem begins_of_mem_splitWhere {p : Char → Bool}
    (apart : ∀ c, p c = true → Text.isWord c = false) (member : part ∈ Text.splitWhere p text) :
    Begins part text := by
  obtain ⟨first, others, split⟩ := List.exists_cons_of_ne_nil (Text.splitWhere_ne_nil p text)
  obtain ⟨leads, behind⟩ := prefix_of_splitWhere split
  rw [split] at member
  rcases List.mem_cons.1 member with rfl | later
  · exact begins_of_leads leads
  · obtain ⟨before, c, separates, within⟩ := behind part later
    exact (begins_behind (apart c separates) before part).trans (begins_of_leads within)

/-! ## Where arguments are found -/

theorem letters_append (text : Text) : letters text ++ text.drop (letters text).length = text :=
  List.prefix_iff_eq_append.1 ((List.take_prefix 2 _).trans (List.takeWhile_prefix _))

theorem isWord_of_isMark {c : Char} (mark : isMark c = true) : Text.isWord c = false := by
  simp only [isMark, Bool.or_eq_true, beq_iff_eq] at mark
  rcases mark with (rfl | rfl) | rfl <;> decide

/-- Behind a word with a mark stands a blank or the mark. -/
theorem exists_of_marked? (found : marked? text = some (word, description)) :
    ∃ c after, text = word ++ c :: after ∧ Text.isWord c = false := by
  rw [marked?] at found
  split at found
  · cases found
  · split at found
    · rename_i c rest behind
      split at found
      · rename_i mark
        obtain ⟨_, -, made⟩ := Option.map_eq_some_iff.1 found
        cases made
        have whole := letters_append text
        cases next : text.drop (letters text).length with
        | nil =>
          rw [next] at behind
          cases behind
        | cons d more =>
          rw [next] at behind whole
          refine ⟨d, more, whole.symm, ?_⟩
          by_cases blank : Text.isBlank d = true
          · exact (Text.plain_of_isBlank blank).1
          · rw [List.dropWhile_cons_of_neg blank] at behind
            cases behind
            exact isWord_of_isMark mark
      · cases found
    · cases found

/-- What follows a heading stands behind its colon. -/
theorem begins_of_afterHeading? {list : Text} (found : afterHeading? text = some list)
    (front : Text) : Begins list (front ++ text) := by
  obtain ⟨heading, -, after⟩ := List.exists_of_findSome?_eq_some found
  obtain ⟨rest, headed, after⟩ := Option.bind_eq_some_iff.1 after
  obtain ⟨start, whole, -⟩ := Text.afterKeyword?_eq_some.1 headed
  -- The rest may begin with the final `s` of the heading.
  have plural : ∃ more, rest = more ++ (Text.afterKeyword? "s" rest).getD rest := by
    cases ending : Text.afterKeyword? "s" rest with
    | none => exact ⟨[], rfl⟩
    | some others =>
      obtain ⟨more, cut, -⟩ := Text.afterKeyword?_eq_some.1 ending
      exact ⟨more, cut⟩
  obtain ⟨more, cut⟩ := plural
  split at after
  · rename_i list' colon
    rw [colon] at cut
    have apart : Text.isWord ':' = false := by decide
    have begins := begins_behind apart (front ++ start ++ more) list'
    rw [List.append_assoc, ← cut, List.append_assoc, ← whole] at begins
    exact (begins_of_restOfLine? after).trans begins
  · cases after

theorem begins_of_listOnLine? {list : Text} (found : listOnLine? line = some list) (front : Text) :
    Begins list (front ++ line) := by
  induction line generalizing front with
  | nil => cases found
  | cons c rest ih =>
    rw [listOnLine?] at found
    rcases Option.or_eq_some_iff.1 found with here | ⟨-, later⟩
    · exact begins_of_afterHeading? here front
    · have begins := ih later (front ++ [c])
      rwa [List.append_assoc] at begins

theorem begins_withoutKeyword (line : Text) : Begins (withoutKeyword line) line := by
  rw [withoutKeyword]
  split
  · rename_i c rest keyword
    split
    · rename_i blank
      obtain ⟨start, rfl, -⟩ := Text.afterKeyword?_eq_some.1 keyword
      exact (begins_dropWhile rest).trans (begins_behind (Text.plain_of_isBlank blank).1 start rest)
    · exact begins_of_leads List.prefix_rfl
  · exact begins_of_leads List.prefix_rfl

/-! ## Where a parameter is found -/

/-- The text behind the keyword of a parameter and the blanks after it. -/
def behindParam? (text : Text) : Option Text :=
  match Text.afterKeyword? "param" text with
  | some (c :: rest) => if Text.isBlank c then some (rest.dropWhile Text.isBlank) else none
  | _ => none

/-- The text that begins with the register of the first parameter of a line. -/
def firstPlace? : Text → Option Text
  | [] => none
  | c :: rest =>
    if ((behindParam? (c :: rest)).bind parameterParts?).isSome then behindParam? (c :: rest)
    else firstPlace? rest

theorem afterParam?_eq (text : Text) :
    afterParam? text = (behindParam? text).bind parameterParts? := by
  rw [afterParam?, behindParam?]
  cases Text.afterKeyword? "param" text with
  | none => rfl
  | some rest =>
    cases rest with
    | nil => rfl
    | cons c rest => cases blank : Text.isBlank c <;> simp [blank]

/-- The first parameter is read off its place. -/
theorem firstParameter?_eq (line : Text) :
    firstParameter? line = (firstPlace? line).bind parameterParts? := by
  induction line with
  | nil => rfl
  | cons c rest ih =>
    rw [firstParameter?, firstPlace?, afterParam?_eq, ih]
    cases here : (behindParam? (c :: rest)).bind parameterParts? with
    | none => rfl
    | some parts =>
      rw [Option.isSome_some, if_pos rfl, here]
      rfl

theorem begins_of_behindParam? (found : behindParam? line = some text) (front : Text) :
    Begins text (front ++ line) := by
  rw [behindParam?] at found
  split at found
  · rename_i c rest keyword
    split at found
    · rename_i blank
      cases found
      obtain ⟨start, rfl, -⟩ := Text.afterKeyword?_eq_some.1 keyword
      have begins := begins_behind (Text.plain_of_isBlank blank).1 (front ++ start) rest
      rw [List.append_assoc] at begins
      exact (begins_dropWhile rest).trans begins
    · cases found
  · cases found

theorem begins_of_firstPlace? (found : firstPlace? line = some text) (front : Text) :
    Begins text (front ++ line) := by
  induction line generalizing front with
  | nil => cases found
  | cons c rest ih =>
    rw [firstPlace?] at found
    split at found
    · exact begins_of_behindParam? found front
    · have begins := ih found (front ++ [c])
      rwa [List.append_assoc] at begins

theorem exists_of_unmarked? {rest : Text} (found : unmarked? text = some rest) :
    ∃ c after, text = c :: after := by
  cases text with
  | nil => cases found
  | cons c after => exact ⟨c, after, rfl⟩

/-- Something stands behind the register of a parameter. -/
theorem exists_of_parameterParts? (found : parameterParts? text = some (word, description)) :
    ∃ c after, text = word ++ c :: after := by
  have whole := letters_append text
  have most : (letters text).length ≤ 2 := List.length_take_le 2 _
  rw [parameterParts?] at found
  split at found
  · cases found
  · rename_i letter single
    obtain ⟨_, unmarked, made⟩ := Option.map_eq_some_iff.1 found
    cases made
    obtain ⟨c, after, behind⟩ := exists_of_unmarked? unmarked
    rw [single, List.length_singleton, behind] at whole
    exact ⟨c, after, whole.symm⟩
  · rename_i first others several double
    rw [double] at whole most
    cases others with
    | nil => exact absurd rfl several
    | cons second more =>
      obtain rfl : more = [] := by simpa using most
      split at found
      · rename_i unmarked
        cases found
        obtain ⟨c, after, behind⟩ := exists_of_unmarked? unmarked
        rw [List.length_cons, List.length_singleton, behind] at whole
        exact ⟨c, after, whole.symm⟩
      · cases found
        exact ⟨second, _, whole.symm⟩

/-! ## Registers that stand alone -/

/-- The register stands in the comment, in any case, and no letter comes before it or behind it. -/
def StandsAlone (letter : Char → Bool) (register comment : Text) : Prop :=
  ∃ before word after, comment = before ++ (word ++ after) ∧ Text.lower word = register ∧
    before.getLast?.any letter = false ∧ after.head?.any letter = false

/-- Whether a register stands alone is told by looking at all parts of the comment. -/
theorem standsAlone_iff {letter : Char → Bool} {register comment : Text} :
    StandsAlone letter register comment ↔
      ∃ start < comment.length + 1, ∃ size < comment.length + 1,
        Text.lower ((comment.drop start).take size) = register ∧
          (comment.take start).getLast?.any letter = false ∧
            (comment.drop (start + size)).head?.any letter = false := by
  constructor
  · rintro ⟨before, word, after, rfl, lowered, left, right⟩
    have start : before.length < (before ++ (word ++ after)).length + 1 := by
      rw [List.length_append]
      omega
    have size : word.length < (before ++ (word ++ after)).length + 1 := by
      rw [List.length_append, List.length_append]
      omega
    refine ⟨before.length, start, word.length, size, ?_, ?_, ?_⟩
    · simpa using lowered
    · simpa using left
    · simpa using right
  · rintro ⟨start, -, size, -, lowered, left, right⟩
    refine ⟨_, _, _, ?_, lowered, left, right⟩
    rw [← List.drop_drop, List.take_append_drop, List.take_append_drop]

instance (letter : Char → Bool) (register comment : Text) :
    Decidable (StandsAlone letter register comment) :=
  decidable_of_iff' _ standsAlone_iff

/-- The argument of a comment whose register is cut off from a longer word: it is found as a
parameter, and a letter stands directly behind the register. -/
def cutOff? (letter : Char → Bool) (comment : Text) : Option Argument :=
  let line := Text.trim comment
  if (listed? line).isSome || (single? line).isSome then none
  else (firstPlace? line).bind fun text =>
    (parameterParts? text).bind fun (word, description) =>
      if (text.drop word.length).head?.any letter then argument? word description else none

theorem register_of_argument? (named : argument? word description = some argument) :
    argument.register = Text.lower word := by
  simp only [argument?] at named
  split at named
  · cases named
    rfl
  · cases named

section Letters

variable {letter : Char → Bool} (words : ∀ c, letter c = true → Text.isWord c = true)
include words

theorem any_letter_of_isWord {found : Option Char} (apart : found.any Text.isWord = false) :
    found.any letter = false := by
  cases found with
  | none => rfl
  | some c =>
    rw [Option.any_some, Bool.eq_false_iff]
    intro is
    exact Bool.false_ne_true (apart.symm.trans (words c is))

/-- A word that leads a part where a word begins stands alone, if no letter follows it there. -/
theorem Begins.standsAlone {c : Char} {after : Text} (begins : Begins (word ++ c :: after) comment)
    (apart : letter c = false) : StandsAlone letter (Text.lower word) comment := by
  obtain ⟨before, back, rfl, outside⟩ := begins
  refine ⟨before, word, c :: after ++ back, by simp, rfl, any_letter_of_isWord words outside, ?_⟩
  rw [List.cons_append, List.head?_cons, Option.any_some, apart]

/-- The register of a word with a mark stands alone. -/
theorem Begins.standsAlone_of_marked? (begins : Begins text comment)
    (marked : marked? text = some (word, description))
    (named : argument? word description = some argument) :
    StandsAlone letter argument.register comment := by
  obtain ⟨c, after, rfl, apart⟩ := exists_of_marked? marked
  have unlettered : letter c = false := by
    rw [Bool.eq_false_iff]
    intro is
    exact Bool.false_ne_true (apart.symm.trans (words c is))
  rw [register_of_argument? named]
  exact begins.standsAlone words unlettered

theorem standsAlone_of_listed? {found : List Argument}
    (listed : listed? (Text.trim comment) = some found) (member : argument ∈ found) :
    StandsAlone letter argument.register comment := by
  obtain ⟨list, announced, rfl⟩ := Option.map_eq_some_iff.1 listed
  obtain ⟨piece, split, read⟩ := List.mem_filterMap.1 member
  obtain ⟨⟨word, description⟩, marked, named⟩ := Option.bind_eq_some_iff.1 read
  have separators : ∀ c : Char, (c == ',' || c == ';') = true → Text.isWord c = false := by
    intro c separates
    rw [Bool.or_eq_true, beq_iff_eq, beq_iff_eq] at separates
    rcases separates with rfl | rfl <;> decide
  have begins : Begins (Text.trim piece) comment :=
    (begins_trim piece).trans <| (begins_of_mem_splitWhere separators split).trans <|
      (begins_of_listOnLine? announced []).trans (begins_trim comment)
  exact begins.standsAlone_of_marked? words marked named

theorem standsAlone_of_single? {found : List Argument}
    (single : single? (Text.trim comment) = some found) (member : argument ∈ found) :
    StandsAlone letter argument.register comment := by
  obtain ⟨⟨word, description⟩, marked, read⟩ := Option.bind_eq_some_iff.1 single
  obtain ⟨only, named, rfl⟩ := Option.map_eq_some_iff.1 read
  obtain rfl := List.mem_singleton.1 member
  have begins := (begins_withoutKeyword (Text.trim comment)).trans (begins_trim comment)
  exact begins.standsAlone_of_marked? words marked named

/-- The register of a parameter is cut off, or it stands alone. -/
theorem standsAlone_of_parameter? {found : List Argument}
    (unlisted : listed? (Text.trim comment) = none) (several : single? (Text.trim comment) = none)
    (parameter : parameter? (Text.trim comment) = some found) (member : argument ∈ found) :
    cutOff? letter comment = some argument ∨ StandsAlone letter argument.register comment := by
  obtain ⟨⟨word, description⟩, first, read⟩ := Option.bind_eq_some_iff.1 parameter
  obtain ⟨only, named, rfl⟩ := Option.map_eq_some_iff.1 read
  obtain rfl := List.mem_singleton.1 member
  rw [firstParameter?_eq] at first
  obtain ⟨text, place, parts⟩ := Option.bind_eq_some_iff.1 first
  obtain ⟨c, after, rfl⟩ := exists_of_parameterParts? parts
  cases follows : letter c with
  | true =>
    left
    simp only [cutOff?, unlisted, several, place, parts, Option.isSome_none, Option.bind_some,
      List.drop_left, List.head?_cons, Option.any_some, follows]
    exact named
  | false =>
    right
    rw [register_of_argument? named]
    exact ((begins_of_firstPlace? place []).trans (begins_trim comment)).standsAlone words follows

end Letters

/-! ## All comments of a routine -/

/-- The arguments of a routine are those of its comments, in order. -/
theorem arguments_summarise (comments : List Text) :
    (summarise comments).arguments =
      comments.flatMap fun comment => (recognise? (Text.trim comment)).getD [] := by
  have added : ∀ summary : Summary, (comments.foldl Summary.add summary).arguments =
      summary.arguments ++
        comments.flatMap fun comment => (recognise? (Text.trim comment)).getD [] := by
    induction comments with
    | nil => simp
    | cons comment rest ih =>
      intro summary
      rw [List.foldl_cons, ih, List.flatMap_cons, ← List.append_assoc]
      congr 1
      simp only [Summary.add]
      split
      · rename_i found recognised
        rw [recognised]
        rfl
      · rename_i unrecognised
        rw [unrecognised, Option.getD_none, List.append_nil]
        split <;> rfl
  exact added {}

theorem mem_arguments_iff {comments : List Text} :
    argument ∈ (summarise comments).arguments ↔
      ∃ comment ∈ comments, ∃ found, recognise? (Text.trim comment) = some found ∧
        argument ∈ found := by
  rw [arguments_summarise, List.mem_flatMap]
  refine exists_congr fun comment => and_congr_right fun _ => ?_
  cases recognise? (Text.trim comment) <;> simp

/-- A register that is cut off is that of an argument. -/
theorem recognise?_of_cutOff? {letter : Char → Bool}
    (cut : cutOff? letter comment = some argument) :
    recognise? (Text.trim comment) = some [argument] := by
  simp only [cutOff?] at cut
  split at cut
  · cases cut
  · rename_i others
    rw [Bool.or_eq_true, not_or, Option.not_isSome_iff_eq_none, Option.not_isSome_iff_eq_none]
      at others
    obtain ⟨text, place, cut⟩ := Option.bind_eq_some_iff.1 cut
    obtain ⟨⟨word, description⟩, parts, cut⟩ := Option.bind_eq_some_iff.1 cut
    split at cut
    · rw [recognise?, others.1, others.2, parameter?, firstParameter?_eq, place, Option.bind_some,
        parts, Option.bind_some]
      simp only [cut]
      rfl
    · cases cut

/-- **Registers stand alone, unless they are cut off.**  Let letters be any word characters.  Each
argument that is read off some comments has a register that stands in one of them, in any case, with
no letter before or behind it, exactly if this holds of the arguments whose register is cut off from
a longer word. -/
theorem registers_stand_alone_iff {letter : Char → Bool}
    (words : ∀ c, letter c = true → Text.isWord c = true) (comments : List Text) :
    (∀ argument ∈ (summarise comments).arguments,
      ∃ comment ∈ comments, StandsAlone letter argument.register comment) ↔
    ∀ comment ∈ comments, ∀ argument, cutOff? letter comment = some argument →
      ∃ other ∈ comments, StandsAlone letter argument.register other := by
  constructor
  · intro all comment member argument cut
    apply all argument
    exact mem_arguments_iff.2
      ⟨comment, member, [argument], recognise?_of_cutOff? cut, List.mem_singleton_self argument⟩
  · intro cuts argument read
    obtain ⟨comment, member, found, recognised, among⟩ := mem_arguments_iff.1 read
    rw [recognise?] at recognised
    rcases Option.or_eq_some_iff.1 recognised with listed | ⟨unlisted, recognised⟩
    · exact ⟨comment, member, standsAlone_of_listed? words listed among⟩
    · rcases Option.or_eq_some_iff.1 recognised with single | ⟨several, parameter⟩
      · exact ⟨comment, member, standsAlone_of_single? words single among⟩
      · rcases standsAlone_of_parameter? words unlisted several parameter among with cut | alone
        · exact cuts comment member argument cut
        · exact ⟨comment, member, alone⟩

/-- A list of inputs, a single register and two parameters, one of them without a mark. -/
theorem registers_stand_alone_iff_of_every_kind :
    let comments : List Text := ["Copies.".toList, "Inputs: HL = source, de: target".toList,
      " register A - count ".toList, "@param bc bytes".toList, "the param c: mode".toList]
    (summarise comments).arguments.map Argument.register =
        (["hl", "de", "a", "bc", "c"] : List String).map String.toList ∧
      ∀ argument ∈ (summarise comments).arguments,
        ∃ comment ∈ comments, StandsAlone Char.isAlpha argument.register comment := by
  intro comments
  have words : ∀ c : Char, c.isAlpha = true → Text.isWord c = true := by
    intro c letter
    simp [Text.isWord, Char.isAlphanum, letter]
  refine ⟨by decide +kernel, (registers_stand_alone_iff words comments).2 ?_⟩
  have uncut : ∀ comment ∈ comments, cutOff? Char.isAlpha comment = none := by decide +kernel
  intro comment member argument cut
  rw [uncut comment member] at cut
  cases cut

/-- The word behind `param` is cut: its first two letters are read as a register. -/
theorem destination_is_cut :
    let comments : List Text := ["@param destination pointer".toList]
    (summarise comments).arguments =
        [{ register := "de".toList, description := "stination pointer".toList }] ∧
      ¬ ∀ argument ∈ (summarise comments).arguments,
        ∃ comment ∈ comments, StandsAlone Char.isAlpha argument.register comment := by
  decide +kernel

end Sm83Cost.Comments
