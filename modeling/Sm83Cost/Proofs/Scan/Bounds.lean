import Sm83Cost.Proofs.Scan.Code

/-!
# The bounds of macro definitions

The beginning and the end of a macro definition are recognised in two ways.  A
scan looks for a header or an end on the line; when the line is taken apart, its
mnemonic is `MACRO` or `ENDM`.  The two differ.  `MACRO` without a name, or behind
a local label or a double colon, is a mnemonic but no header, and with a mark
directly behind it in `Name: MACRO` a header but no mnemonic.  `ENDM` behind a
label is a mnemonic but no end, and with a mark directly behind it an end but no
mnemonic.

On a regular line nothing of that kind stands, and the two agree
(`isSome_header?_of_regular`, `isMacroEnd_of_regular`).
-/

namespace Sm83Cost.Scan

set_option autoImplicit false

open Line (Leads codeOf labelAndCode)

/-! ## Keywords at the beginning of code -/

/-- The keyword is the first word of the code. -/
def opensWith (keyword code : Text) : Bool :=
  (Text.afterKeyword? keyword code).any isWordEnd

/-- The keyword is the first word of the code, and a blank or nothing follows it. -/
def standsAlone (keyword code : Text) : Bool :=
  (Text.afterKeyword? keyword code).any (·.head?.all Text.isBlank)

theorem standsAlone_iff {keyword code : Text} :
    standsAlone keyword code = true ↔
      ∃ word rest, code = word ++ rest ∧ Leads keyword word rest := by
  rw [standsAlone, Option.any_eq_true]
  constructor
  · rintro ⟨rest, found, apart⟩
    obtain ⟨word, whole, folded⟩ := Text.afterKeyword?_eq_some.1 found
    exact ⟨word, rest, whole, folded, apart⟩
  · rintro ⟨word, rest, whole, leads⟩
    exact ⟨rest, Text.afterKeyword?_eq_some.2 ⟨word, whole, leads.folded⟩, leads.apart⟩

theorem isWordEnd_of_apart {rest : Text} (apart : rest.head?.all Text.isBlank = true) :
    isWordEnd rest = true := by
  cases rest with
  | nil => rfl
  | cons c rest =>
    have blank : Text.isBlank c = true := apart
    have outside : Text.isWord c = false := (Text.plain_of_isBlank blank).1
    simp [isWordEnd, outside]

theorem opensWith_of_standsAlone {keyword code : Text} (alone : standsAlone keyword code = true) :
    opensWith keyword code = true := by
  rw [standsAlone, Option.any_eq_true] at alone
  obtain ⟨rest, found, apart⟩ := alone
  exact (Option.any_eq_true _ _).2 ⟨rest, found, isWordEnd_of_apart apart⟩

/-- Where the first word is no other than a keyword that stands alone, the two agree. -/
theorem standsAlone_eq_opensWith {keyword code : Text}
    (settled : opensWith keyword code = false ∨ standsAlone keyword code = true) :
    standsAlone keyword code = opensWith keyword code := by
  rcases settled with unopened | alone
  · rw [unopened, Bool.eq_false_iff]
    intro alone
    exact Bool.eq_false_iff.1 unopened (opensWith_of_standsAlone alone)
  · rw [alone, opensWith_of_standsAlone alone]

/-- Blanks around a text do not matter to the keyword it begins with. -/
theorem opensWith_trim {keyword : Text} (small : keyword.all Char.isLower = true) (text : Text) :
    opensWith keyword (Text.trim text) = opensWith keyword (text.dropWhile Text.isBlank) := by
  have whole := Text.dropEndWhile_append_takeWhile Text.isBlank (text.dropWhile Text.isBlank)
  have blanks : ∀ c ∈ ((text.dropWhile Text.isBlank).reverse.takeWhile Text.isBlank).reverse,
      Text.isBlank c = true :=
    fun c member => List.mem_takeWhile_imp (List.mem_reverse.1 member)
  rw [Text.trim, Text.dropAround]
  generalize ((text.dropWhile Text.isBlank).reverse.takeWhile Text.isBlank).reverse = trail
    at whole blanks
  have apart : trail.head?.all Text.isBlank = true := by
    cases trail with
    | nil => rfl
    | cons c trail => exact blanks c List.mem_cons_self
  have stop : trail.head?.any Text.isLetter = false := by
    cases trail with
    | nil => rfl
    | cons c trail => exact (Text.plain_of_isBlank apart).2.1
  generalize Text.dropEndWhile Text.isBlank (text.dropWhile Text.isBlank) = kept at whole ⊢
  rw [← whole, opensWith, opensWith, Text.afterKeyword?_append small stop, Option.any_map]
  congr 1
  funext rest
  cases rest with
  | nil => exact (isWordEnd_of_apart apart).symm
  | cons c rest => rfl

/-! ## Regular lines -/

/-- The word at the beginning has a single colon behind it. -/
def hasSingleColon (code : Text) : Bool :=
  match code.dropWhile Text.isWord with
  | ':' :: more => more.head? != some ':'
  | _ => false

/-- Code that begins with `MACRO` has the name of a macro behind the keyword. -/
def namesMacro (code : Text) : Bool :=
  ((Text.afterKeyword? "macro" code).bind afterBlanks?).any (·.head?.any Text.isWord)

/-- Behind a word and a single colon, `MACRO` has no mark directly behind it.  Elsewhere, `MACRO`
with a blank or nothing behind it has no label, and a name follows it. -/
def beginsRegularly (text : Text) : Bool :=
  let code := codeOf text
  let (label, body) := labelAndCode code
  if label.isSome && hasSingleColon code then !opensWith "macro" body || standsAlone "macro" body
  else !standsAlone "macro" body || label.isNone && namesMacro body

/-- `ENDM` is neither a label nor behind one, and it has no mark directly behind it. -/
def endsRegularly (text : Text) : Bool :=
  let code := codeOf text
  let (label, body) := labelAndCode code
  if label.isSome then !opensWith "endm" code && !standsAlone "endm" body
  else !opensWith "endm" code || standsAlone "endm" code

/-- Definitions of macros begin and end on the line as they should, if they do. -/
def isRegular (text : Text) : Bool :=
  beginsRegularly text && endsRegularly text

/-! ## Headers -/

theorem isSome_keywordFirst? (code : Text) :
    (keywordFirst? code).isSome = namesMacro code := by
  rw [keywordFirst?, namesMacro]
  cases (Text.afterKeyword? "macro" code).bind afterBlanks? with
  | none => rfl
  | some rest =>
    rw [Option.bind_some, Option.any_some, nonempty?]
    cases rest with
    | nil => rfl
    | cons c rest =>
      cases word : Text.isWord c with
      | true => simp [word]
      | false => simp [word]

/-- A name of a macro stands behind the keyword and a blank. -/
theorem standsAlone_of_namesMacro {code : Text} (named : namesMacro code = true) :
    standsAlone "macro" code = true := by
  rw [namesMacro, Option.any_eq_true] at named
  obtain ⟨behind, found, -⟩ := named
  obtain ⟨rest, keyword, apart⟩ := Option.bind_eq_some_iff.1 found
  refine (Option.any_eq_true _ _).2 ⟨rest, keyword, ?_⟩
  cases rest with
  | nil => rfl
  | cons c rest =>
    rw [afterBlanks?] at apart
    split at apart
    · assumption
    · cases apart

/-- Code has a label, or is all there is. -/
theorem labelAndCode_cases (code : Text) :
    labelAndCode code = (none, code) ∨ (labelAndCode code).1.isSome = true := by
  rw [labelAndCode]
  cases Line.splitLabel? code with
  | none => exact .inl rfl
  | some parts => exact .inr rfl

/-- Code that begins with `MACRO` and a blank has no label. -/
theorem labelAndCode_of_standsAlone {code : Text} (alone : standsAlone "macro" code = true) :
    labelAndCode code = (none, code) := by
  obtain ⟨word, rest, rfl, leads⟩ := standsAlone_iff.1 alone
  exact leads.labelAndCode (by decide) (by decide)

/-- Behind a word and a colon a macro begins when `MACRO` is the next word. -/
theorem nameFirst?_of_colon {code name more : Text}
    (found : leadingWord? code = some (name, ':' :: more)) :
    nameFirst? code = if opensWith "macro" (Text.trim more) then some name else none := by
  rw [nameFirst?, found, opensWith_trim (by decide), opensWith]
  simp only [Option.bind_some]
  cases Text.afterKeyword? "macro" (more.dropWhile Text.isBlank) with
  | none => rfl
  | some after => rfl

theorem dropWhile_of_leadingWord? {code name rest : Text}
    (found : leadingWord? code = some (name, rest)) : code.dropWhile Text.isWord = rest := by
  obtain ⟨word, -, made⟩ := Option.map_eq_some_iff.1 found
  exact (Prod.mk.inj made).2

/-- Without a word and a colon at the beginning the code has no label, or no single colon. -/
theorem labelAndCode_of_unnamed {code : Text}
    (unnamed : ∀ name more, leadingWord? code ≠ some (name, ':' :: more))
    (single : hasSingleColon code = true) : labelAndCode code = (none, code) := by
  rw [hasSingleColon] at single
  split at single
  · rename_i more behind
    cases taken : code.takeWhile Text.isWord with
    | nil =>
      have whole := List.takeWhile_append_dropWhile (p := Text.isWord) (l := code)
      rw [taken, behind, List.nil_append] at whole
      subst whole
      rw [labelAndCode, Line.splitLabel?_of_ne (by decide), taken]
    | cons c name =>
      refine absurd ?_ (unnamed (c :: name) more)
      rw [leadingWord?, taken, behind]
      rfl
  · cases single

/-- Behind a label no macro begins with its keyword first. -/
theorem keywordFirst?_of_labelled {code : Text} (labelled : labelAndCode code ≠ (none, code)) :
    keywordFirst? code = none := by
  rw [← Option.not_isSome_iff_eq_none, isSome_keywordFirst?]
  exact fun named => labelled (labelAndCode_of_standsAlone (standsAlone_of_namesMacro named))

/-- Behind a word and a colon a scan sees a header when `MACRO` is the next word. -/
theorem isSome_header?_of_colon {code name more : Text}
    (found : leadingWord? code = some (name, ':' :: more)) :
    (header? code).isSome = opensWith "macro" (Text.trim more) := by
  have labelled : labelAndCode code ≠ (none, code) := by
    rw [labelAndCode_of_leadingWord? found]
    nofun
  rw [header?, keywordFirst?_of_labelled labelled, nameFirst?_of_colon found, Option.or_none]
  cases opensWith "macro" (Text.trim more) <;> rfl

/-- Without a word and a colon at the beginning a header has its keyword first. -/
theorem header?_of_unnamed {code : Text}
    (unnamed : ∀ name more, leadingWord? code ≠ some (name, ':' :: more)) :
    header? code = keywordFirst? code := by
  have nameless : nameFirst? code = none := by
    rw [nameFirst?]
    cases found : leadingWord? code with
    | none => rfl
    | some parts =>
      obtain ⟨name, rest⟩ := parts
      cases rest with
      | nil => rfl
      | cons mark more =>
        have other : mark ≠ ':' := by
          rintro rfl
          exact unnamed name more found
        simp [other]
  rw [header?, nameless, Option.none_or]

/-- On a regular line a scan sees a header exactly when the mnemonic is `MACRO`. -/
theorem isSome_header?_of_regular {text : Text} (regular : beginsRegularly text = true) :
    (header? (codeOf text)).isSome = standsAlone "macro" (labelAndCode (codeOf text)).2 := by
  simp only [beginsRegularly] at regular
  generalize codeOf text = code at regular ⊢
  by_cases colon : ∃ name more, leadingWord? code = some (name, ':' :: more)
  · obtain ⟨name, more, found⟩ := colon
    have labelled := labelAndCode_of_leadingWord? found
    rw [labelled, hasSingleColon, dropWhile_of_leadingWord? found] at regular
    rw [isSome_header?_of_colon found, labelled]
    cases more with
    | nil => rfl
    | cons mark more =>
      by_cases double : mark = ':'
      · -- Behind two colons the scan sees no header.
        subst double
        have apart : standsAlone "macro" (Text.trim (Line.dropColons 1 (':' :: more))) = false := by
          simpa using regular
        rw [apart, opensWith_trim (by decide)]
        rfl
      · have settled : opensWith "macro" (Text.trim (mark :: more)) = false ∨
            standsAlone "macro" (Text.trim (mark :: more)) = true := by
          simpa [double, Line.dropColons_of_ne] using regular
        rw [Line.dropColons_of_ne double]
        exact (standsAlone_eq_opensWith settled).symm
  · have unnamed : ∀ name more, leadingWord? code ≠ some (name, ':' :: more) :=
      fun name more found => colon ⟨name, more, found⟩
    rw [header?_of_unnamed unnamed]
    by_cases unlabelled : labelAndCode code = (none, code)
    · have settled : standsAlone "macro" code = false ∨ namesMacro code = true := by
        simpa [unlabelled] using regular
      rw [unlabelled, isSome_keywordFirst?]
      rcases settled with apart | named
      · rw [apart, Bool.eq_false_iff]
        exact fun named => Bool.eq_false_iff.1 apart (standsAlone_of_namesMacro named)
      · rw [named, standsAlone_of_namesMacro named]
    · -- The label is a local one, and the scan sees no header behind it.
      have labelled := (labelAndCode_cases code).resolve_left unlabelled
      have unmarked : hasSingleColon code = false :=
        Bool.eq_false_iff.2 fun single => unlabelled (labelAndCode_of_unnamed unnamed single)
      have apart : standsAlone "macro" (labelAndCode code).2 = false := by
        simpa [unmarked, Option.isSome_iff_ne_none.1 labelled] using regular
      rw [keywordFirst?_of_labelled unlabelled, apart]
      rfl

/-- On a regular line a scan sees the end of a macro exactly when the mnemonic is `ENDM`. -/
theorem isMacroEnd_of_regular {text : Text} (regular : endsRegularly text = true) :
    isMacroEnd (codeOf text) = standsAlone "endm" (labelAndCode (codeOf text)).2 := by
  simp only [endsRegularly] at regular
  generalize codeOf text = code at regular ⊢
  have ends : isMacroEnd code = opensWith "endm" code := rfl
  rcases labelAndCode_cases code with unlabelled | labelled
  · rw [unlabelled] at regular ⊢
    rw [ends, standsAlone_eq_opensWith (by simpa using regular)]
  · rw [if_pos labelled, Bool.and_eq_true, Bool.not_eq_true', Bool.not_eq_true'] at regular
    rw [ends, regular.1, regular.2]

end Sm83Cost.Scan
