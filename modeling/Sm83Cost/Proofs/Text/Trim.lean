import Mathlib.Data.List.TakeWhile
import Sm83Cost.Text.Blank
import Sm83Cost.Text.Caseless
import Sm83Cost.Text.Word

/-!
# Blanks at the ends

Trimming takes the blanks from both ends of a text and nothing else.  So a text
is some blanks, the trimmed text and more blanks (`exists_trim`), and what has no
blanks at its ends is the trimmed text of every such text (`trim_eq`).

A text is cut by what its characters are, so nothing behind a place where a cut
stops can change it.  Where the next part begins with a character that stops the
cut, a text in front of it is cut as if it stood alone.
-/

namespace Sm83Cost.Text

set_option autoImplicit false

/-- A property of all characters of a text is checked for one after the other. -/
theorem forall_mem_of_all {p : Char → Prop} [DecidablePred p] {text : Text}
    (checked : text.all (fun c => decide (p c)) = true) : ∀ c ∈ text, p c :=
  fun c member => of_decide_eq_true (List.all_eq_true.1 checked c member)

/-! ## What blanks are -/

theorem Ranges.exists_of_contains {ranges : Ranges} {code : Nat}
    (contained : ranges.contains code = true) :
    ∃ range ∈ ranges, range.1 ≤ code ∧ code ≤ range.2 := by
  induction ranges with
  | nil => cases contained
  | cons range rest ih =>
    rw [Ranges.contains] at contained
    split at contained
    · cases contained
    · rename_i above
      rw [Bool.or_eq_true, decide_eq_true_eq] at contained
      rcases contained with below | later
      · exact ⟨range, List.mem_cons_self, Nat.le_of_not_lt above, below⟩
      · obtain ⟨range, member, within⟩ := ih later
        exact ⟨range, List.mem_cons_of_mem _ member, within⟩

/-- The blanks, one by one. -/
def blanks : Text :=
  blankRanges.flatMap fun range =>
    (List.range' range.1 (range.2 - range.1 + 1)).map Char.ofNat

theorem mem_blanks {c : Char} (blank : isBlank c = true) : c ∈ blanks := by
  obtain ⟨range, member, least, most⟩ := Ranges.exists_of_contains blank
  refine List.mem_flatMap.2 ⟨range, member, List.mem_map.2 ⟨c.toNat, ?_, Char.ofNat_toNat c⟩⟩
  rw [List.mem_range'_1]
  omega

/-- No blank is part of a word, a letter of a keyword or a mark. -/
theorem plain_of_isBlank {c : Char} (blank : isBlank c = true) :
    isWord c = false ∧ isLetter c = false ∧ c ≠ ':' ∧ c ≠ ';' := by
  have each : ∀ c ∈ blanks, isWord c = false ∧ isLetter c = false ∧ c ≠ ':' ∧ c ≠ ';' :=
    forall_mem_of_all (by decide +kernel)
  exact each c (mem_blanks blank)

theorem isBlank_of_isWord {c : Char} (word : isWord c = true) : isBlank c = false := by
  by_contra blank
  have other := (plain_of_isBlank (Bool.of_not_eq_false blank)).1
  exact Bool.false_ne_true (other.symm.trans word)

/-! ## Cutting in front of what stops the cut -/

section Stop

variable {p : Char → Bool} {tail : Text}

theorem dropWhile_of_head? (stop : tail.head?.any p = false) : tail.dropWhile p = tail := by
  cases tail with
  | nil => rfl
  | cons c rest => exact List.dropWhile_cons_of_neg (Bool.eq_false_iff.1 stop)

theorem takeWhile_of_head? (stop : tail.head?.any p = false) : tail.takeWhile p = [] := by
  cases tail with
  | nil => rfl
  | cons c rest => exact List.takeWhile_cons_of_neg (Bool.eq_false_iff.1 stop)

theorem takeWhile_append_of_head? (stop : tail.head?.any p = false) (text : Text) :
    (text ++ tail).takeWhile p = text.takeWhile p := by
  rw [List.takeWhile_append]
  split
  · rename_i whole
    rw [takeWhile_of_head? stop, List.append_nil]
    exact ((List.takeWhile_prefix p).eq_of_length whole).symm
  · rfl

theorem dropWhile_append_of_head? (stop : tail.head?.any p = false) (text : Text) :
    (text ++ tail).dropWhile p = text.dropWhile p ++ tail := by
  rw [List.dropWhile_append]
  split
  · rename_i none
    rw [List.isEmpty_iff.1 none, dropWhile_of_head? stop, List.nil_append]
  · rfl

/-- Where nothing is to be dropped, nothing is. -/
theorem dropAround_of_forall {p : Char → Bool} {text : Text} (stays : ∀ c ∈ text, p c = false) :
    dropAround p text = text := by
  have stops : ∀ text : Text, (∀ c ∈ text, p c = false) → text.dropWhile p = text := by
    intro text stays
    cases text with
    | nil => rfl
    | cons c rest =>
      exact List.dropWhile_cons_of_neg (Bool.eq_false_iff.1 (stays c List.mem_cons_self))
  have back : text.reverse.dropWhile p = text.reverse :=
    stops _ fun c member => stays c (List.mem_reverse.1 member)
  rw [dropAround, stops text stays, dropEndWhile, back, List.reverse_reverse]

/-- A keyword stands at the beginning or not, whatever follows that is no letter. -/
theorem afterKeyword?_append {keyword : Text} (letters : keyword.all Char.isLower = true)
    (stop : tail.head?.any isLetter = false) (text : Text) :
    afterKeyword? keyword (text ++ tail) = (afterKeyword? keyword text).map (· ++ tail) := by
  induction keyword generalizing text with
  | nil => rfl
  | cons letter keyword ih =>
    rw [List.all_cons, Bool.and_eq_true] at letters
    cases text with
    | nil =>
      cases tail with
      | nil => rfl
      | cons c rest =>
        have differs : fold c ≠ letter := by
          rintro rfl
          exact Bool.false_ne_true (stop.symm.trans letters.1)
        exact if_neg differs
    | cons c rest =>
      simp only [List.cons_append, afterKeyword?, ih letters.2 rest]
      split <;> rfl

end Stop

/-! ## Trimming -/

/-- No blank stands at either end. -/
def IsTrimmed (text : Text) : Prop :=
  text.head?.any isBlank = false ∧ text.getLast?.any isBlank = false

/-- A text is its trimmed text between blanks. -/
theorem exists_trim (text : Text) :
    ∃ lead trail, (∀ c ∈ lead, isBlank c = true) ∧ (∀ c ∈ trail, isBlank c = true) ∧
      text = lead ++ (trim text ++ trail) := by
  refine ⟨text.takeWhile isBlank, ((text.dropWhile isBlank).reverse.takeWhile isBlank).reverse,
    fun _ => List.mem_takeWhile_imp, ?_, ?_⟩
  · intro c member
    exact List.mem_takeWhile_imp (List.mem_reverse.1 member)
  · rw [trim, dropAround, dropEndWhile_append_takeWhile, List.takeWhile_append_dropWhile]

/-- The trimmed text is what stands between the blanks. -/
theorem trim_eq {lead core trail : Text} (before : ∀ c ∈ lead, isBlank c = true)
    (after : ∀ c ∈ trail, isBlank c = true) (trimmed : IsTrimmed core) :
    trim (lead ++ (core ++ trail)) = core := by
  rw [trim, dropAround, List.dropWhile_append_of_pos before]
  cases core with
  | nil => simp [List.dropWhile_eq_nil_iff.2 after, dropEndWhile]
  | cons c rest =>
    have first : ¬ isBlank c = true := Bool.eq_false_iff.1 trimmed.1
    have last : ((c :: rest).reverse).head?.any isBlank = false := by
      rw [List.head?_reverse]
      exact trimmed.2
    rw [List.cons_append, List.dropWhile_cons_of_neg first,
      ← List.cons_append, dropEndWhile, List.reverse_append,
      List.dropWhile_append_of_pos (by simpa using after), dropWhile_of_head? last,
      List.reverse_reverse]

theorem isTrimmed_trim (text : Text) : IsTrimmed (trim text) := by
  have stops : ∀ text : Text, (text.dropWhile isBlank).head?.any isBlank = false := by
    intro text
    have stop := List.head?_dropWhile_not isBlank text
    cases first : (text.dropWhile isBlank).head? with
    | none => rfl
    | some c =>
      rw [first] at stop
      exact stop
  constructor
  · have whole := dropEndWhile_append_takeWhile isBlank (text.dropWhile isBlank)
    have first := stops text
    rw [trim, dropAround]
    cases kept : dropEndWhile isBlank (text.dropWhile isBlank) with
    | nil => rfl
    | cons c rest =>
      rw [kept] at whole
      rw [← whole] at first
      exact first
  · rw [trim, dropAround, dropEndWhile, List.getLast?_reverse]
    exact stops _

/-- A blank in front of a text is trimmed away. -/
theorem trim_cons_of_isBlank {c : Char} (blank : isBlank c = true) (text : Text) :
    trim (c :: text) = trim text := by
  rw [trim, dropAround, List.dropWhile_cons_of_pos blank]
  rfl

/-- Blanks behind a text are trimmed away. -/
theorem trim_append_blanks {trail : Text} (after : ∀ c ∈ trail, isBlank c = true) (text : Text) :
    trim (text ++ trail) = trim text := by
  obtain ⟨lead, more, before, behind, whole⟩ := exists_trim text
  have blanks : ∀ c ∈ more ++ trail, isBlank c = true := by
    intro c member
    exact (List.mem_append.1 member).elim (behind c) (after c)
  have both := trim_eq before blanks (isTrimmed_trim text)
  rwa [← List.append_assoc (trim text), ← List.append_assoc lead, ← whole] at both

theorem trim_of_isTrimmed {text : Text} (trimmed : IsTrimmed text) : trim text = text := by
  have alone : ∀ c ∈ ([] : Text), isBlank c = true := nofun
  have same := trim_eq alone alone trimmed
  rwa [List.append_nil, List.nil_append] at same

/-- A text without blanks is trimmed. -/
theorem isTrimmed_of_forall {text : Text} (full : ∀ c ∈ text, isBlank c = false) :
    IsTrimmed text := by
  constructor
  · cases first : text.head? with
    | none => rfl
    | some c => exact full c (List.mem_of_mem_head? first)
  · cases last : text.getLast? with
    | none => rfl
    | some c => exact full c (List.mem_of_mem_getLast? last)

/-- Between two trimmed texts that are not empty anything may stand. -/
theorem IsTrimmed.append {first last : Text} (begins : IsTrimmed first) (some : first ≠ [])
    (ends : IsTrimmed last) (more : last ≠ []) (middle : Text) :
    IsTrimmed (first ++ (middle ++ last)) := by
  obtain ⟨c, rest, rfl⟩ := List.exists_cons_of_ne_nil some
  refine ⟨begins.1, ?_⟩
  rw [← List.append_assoc, List.getLast?_append, List.getLast?_eq_some_getLast more,
    Option.some_or, ← List.getLast?_eq_some_getLast more]
  exact ends.2

/-- Behind a trimmed text that is not empty only blanks at the end are trimmed away. -/
theorem exists_trim_append {lead core : Text} (before : ∀ c ∈ lead, isBlank c = true)
    (trimmed : IsTrimmed core) (some : core ≠ []) (tail : Text) :
    ∃ kept trail, (∀ c ∈ trail, isBlank c = true) ∧ tail = kept ++ trail ∧
      trim (lead ++ (core ++ tail)) = core ++ kept := by
  obtain ⟨front, trail, between, behind, whole⟩ := exists_trim tail
  by_cases empty : trim tail = []
  · have blank : ∀ c ∈ tail, isBlank c = true := by
      intro c member
      rw [whole, empty, List.nil_append, List.mem_append] at member
      exact member.elim (between c) (behind c)
    refine ⟨[], tail, blank, rfl, ?_⟩
    rw [List.append_nil]
    exact trim_eq before blank trimmed
  · refine ⟨front ++ trim tail, trail, behind, by rw [List.append_assoc, ← whole], ?_⟩
    have kept := trim_eq before behind (trimmed.append some (isTrimmed_trim tail) empty front)
    have same : core ++ tail = (core ++ (front ++ trim tail)) ++ trail := by
      simp only [List.append_assoc]
      rw [← whole]
    rwa [same]

end Sm83Cost.Text
