import Sm83Cost.Proofs.Scan.Prices

/-!
# The order of macro definitions

Two macros that are written one after the other may be written in the other order,
if their names differ and neither body has the other name as an instruction.  What
follows is then scanned with the same prices in view, so in the end every name has
the same price, and the same routines are documented
(`scan_exchange_definitions`).

The names may be defined before and again later, and either body may call earlier
macros of its own name.  The places of the macros in the document do change, and so
may the order in which they are registered, but no price depends on either.
-/

namespace Sm83Cost

set_option autoImplicit false

namespace Scan

variable {tree : FileTree} {scan : LineScan} {directory : Option Path} {file : Option Text}

/-! ## Scanners with the same prices -/

/-- The scanners know the same names, with the same prices, and the same routines. -/
structure Interchangeable (first second : Scanner) : Prop where
  agree : first.AgreeOn (fun _ => True) second
  routines : first.routines = second.routines

/-- Macros of one name and one price may be registered. -/
theorem Interchangeable.register {name : Text} {first second after after' : Scanner}
    (same : Interchangeable first second)
    (registered : RegisterAlike name first second after after') :
    Interchangeable after after' := by
  obtain ⟨definition, definition', rfl, named, prices, rfl, rfl⟩ := registered
  refine ⟨⟨same.agree.tables, same.agree.pins, fun key _ => ?_⟩, same.routines⟩
  rw [Macro.map_price_register, Macro.map_price_register, named, prices,
    same.agree.prices key trivial]

/-- Registering a macro changes nothing under other names. -/
theorem agreeOn_register (scanner : Scanner) {definition : Macro} {name : Text}
    (named : Text.upper definition.name = name) :
    scanner.AgreeOn (fun other => other ≠ name)
      { scanner with macros := scanner.macros.register definition } := by
  refine ⟨rfl, rfl, fun key other => ?_⟩
  rw [Macro.map_price_register, named, if_neg other]

/-- Macros of different names may be registered in either order.  One scanner has the first macro
and then the second one, the other has them the other way round. -/
theorem exchange_register {name name' : Text} (apart : Text.upper name ≠ Text.upper name')
    {scanner middle middle' last last' : Scanner}
    (first : RegisterAlike name scanner middle' middle last')
    (second : RegisterAlike name' scanner middle middle' last) :
    Interchangeable last last' := by
  obtain ⟨one, one', rfl, named, prices, rfl, rfl⟩ := first
  obtain ⟨two, two', rfl, named', prices', rfl, rfl⟩ := second
  refine ⟨⟨rfl, rfl, fun key _ => ?_⟩, rfl⟩
  simp only [Macro.map_price_register, named, named', prices, prices']
  by_cases isOne : key = Text.upper one.name
  · rw [if_neg (isOne ▸ apart), if_pos isOne, if_pos isOne]
  · rw [if_neg isOne, if_neg isOne]

/-! ## Macros as they are written -/

/-- A macro as it is written: a header, a body, and the line that ends it. -/
structure WrittenMacro where
  name : Text
  header : Text
  body : List Text
  stop : Text
  named : header? (Text.trim header) = some name
  goesOn : ∀ text ∈ body, isMacroEnd (Text.trim text) = false
  ends : isMacroEnd (Text.trim stop) = true

namespace WrittenMacro

/-- The lines of the macro. -/
def lines (written : WrittenMacro) : List Text :=
  written.header :: (written.body ++ [written.stop])

/-- The block of the macro when it begins at a line of a document. -/
def block (written : WrittenMacro) (number : Nat) : Block where
  name := Text.upper written.name
  startLine := number
  lines := (written.body.zipIdx (number + 1)).map Prod.swap

/-- What the macro does to a scan when it begins at a line of a document. -/
def close (written : WrittenMacro) (number : Nat) : Progress → Except Stopped Progress :=
  closeBlock (written.block number) (number + 1 + written.body.length)

/-- The body of a macro is the same at every place. -/
theorem map_snd_block (written : WrittenMacro) (number : Nat) :
    (written.block number).lines.map Prod.snd = written.body := by
  rw [block, List.map_map]
  exact List.zipIdx_map_fst (number + 1) written.body

end WrittenMacro

/-- Lines that end no macro are collected. -/
theorem scanLines_body {body : List Text}
    (goesOn : ∀ text ∈ body, isMacroEnd (Text.trim text) = false) (number : Nat)
    (rest : List Text) (block : Block) (progress : Progress) :
    scanLines tree scan directory file number (body ++ rest) (.block block) progress =
      scanLines tree scan directory file (number + body.length) rest
        (.block { block with lines := block.lines ++ (body.zipIdx number).map Prod.swap })
        progress := by
  induction body generalizing number block with
  | nil => simp
  | cons text body ih =>
    obtain ⟨here, later⟩ := List.forall_mem_cons.1 goesOn
    have step : scanLine tree scan directory file number text (.block block) progress =
        .ok (.block { block with lines := block.lines ++ [(number, text)] }, progress) := by
      simp only [scanLine, here, Bool.false_eq_true, if_false]
    rw [List.cons_append, scanLines, step]
    show scanLines tree scan directory file (number + 1) (body ++ rest) _ progress = _
    rw [ih later, List.length_cons, List.zipIdx_cons, List.map_cons, List.append_assoc,
      Nat.add_right_comm, Nat.add_assoc]
    rfl

namespace WrittenMacro

/-- The lines of a macro close its block. -/
theorem scanLines_append (written : WrittenMacro) (number : Nat) (rest comments : List Text)
    (progress : Progress) :
    scanLines tree scan directory file number (written.lines ++ rest) (.comments comments)
        progress =
      written.close number progress >>=
        scanLines tree scan directory file (number + written.lines.length) rest
          (.comments []) := by
  have begins :
      scanLine tree scan directory file number written.header (.comments comments) progress =
        .ok (.block { name := Text.upper written.name, startLine := number }, progress) := by
    have mark : landmark? (Text.trim written.header) = some (.header written.name) :=
      landmark?_eq_header_iff.2 (header?_trim written.header ▸ written.named)
    simp only [scanLine, mark]
  have size : number + written.lines.length = number + 1 + written.body.length + 1 := by
    rw [lines, List.length_cons, List.length_append, List.length_singleton]
    omega
  rw [size, lines, List.cons_append, List.append_assoc, scanLines, begins]
  show scanLines tree scan directory file (number + 1) _ _ progress = _
  rw [scanLines_body written.goesOn, List.singleton_append, scanLines, scanLine,
    if_pos written.ends, List.nil_append]
  show (written.close number progress >>= _) >>= _ = _
  cases written.close number progress <;> rfl

/-- The lines of two macros close one block and then the other. -/
theorem scanLines_append_append (first second : WrittenMacro) (number : Nat)
    (rest comments : List Text) (progress : Progress) :
    scanLines tree scan directory file number (first.lines ++ (second.lines ++ rest))
        (.comments comments) progress =
      (first.close number progress >>= second.close (number + first.lines.length)) >>=
        scanLines tree scan directory file (number + first.lines.length + second.lines.length)
          rest (.comments []) := by
  rw [first.scanLines_append]
  cases first.close number progress with
  | error stopped => rfl
  | ok middle => exact second.scanLines_append (number + first.lines.length) rest [] middle

/-! ## Two macros in either order -/

/-- Behind another macro that it does not invoke, a macro is closed as it is without it. -/
theorem close_behind (written other : WrittenMacro)
    (uncalled : ∀ text ∈ written.body, ¬ Line.Invokes text (Text.upper other.name))
    {place : Nat} {progress after : Progress} (closed : other.close place progress = .ok after)
    (number number' : Nat) :
    Parallel (fun _ _ => True) (fun last last' =>
        RegisterAlike (Text.upper written.name) progress.scanner after.scanner last.scanner
          last'.scanner)
      (written.close number progress) (written.close number' after) := by
  have agree : progress.scanner.AgreeOn (fun name => name ≠ Text.upper other.name)
      after.scanner := by
    rw [(register_of_closeBlock closed).2]
    exact agreeOn_register progress.scanner (Text.upper_upper other.name)
  have texts := (written.map_snd_block number).trans (written.map_snd_block number').symm
  have within : ∀ text ∈ (written.block number).lines.map Prod.snd, ∀ name,
      Line.Invokes text name → name ≠ Text.upper other.name := by
    rw [written.map_snd_block]
    rintro text member name invokes rfl
    exact uncalled text member invokes
  exact closeBlock_agrees agree (written.block number) (written.block number') rfl texts within
    _ _

/-- **Two macros may be closed in either order** if neither invokes the other. -/
theorem close_exchange (first second : WrittenMacro)
    (apart : Text.upper first.name ≠ Text.upper second.name)
    (uncalled : ∀ text ∈ first.body, ¬ Line.Invokes text (Text.upper second.name))
    (uncalled' : ∀ text ∈ second.body, ¬ Line.Invokes text (Text.upper first.name))
    (progress : Progress) (number later later' : Nat) :
    Parallel (fun _ _ => True) (fun last last' => Interchangeable last.scanner last'.scanner)
      (first.close number progress >>= second.close later)
      (second.close number progress >>= first.close later') := by
  have capitals : Text.upper (Text.upper first.name) ≠ Text.upper (Text.upper second.name) := by
    rwa [Text.upper_upper, Text.upper_upper]
  -- Whether a macro is given up does not depend on the other one, which is known once and once not.
  cases here : first.close number progress with
  | error stopped =>
    cases there : second.close number progress with
    | error stopped' => exact .error trivial
    | ok middle' =>
      have firstAlike := first.close_behind second uncalled there number later'
      rw [here] at firstAlike
      show Parallel _ _ (.error stopped) (first.close later' middle')
      generalize first.close later' middle' = last' at firstAlike ⊢
      cases firstAlike with
      | error failed => exact .error trivial
  | ok middle =>
    have secondAlike := second.close_behind first uncalled' here number later
    show Parallel _ _ (second.close later middle) _
    generalize second.close later middle = last at secondAlike ⊢
    cases there : second.close number progress with
    | error stopped' =>
      rw [there] at secondAlike
      cases secondAlike with
      | error failed => exact .error trivial
    | ok middle' =>
      have firstAlike := first.close_behind second uncalled there number later'
      rw [here] at firstAlike
      rw [there] at secondAlike
      show Parallel _ _ last (first.close later' middle')
      generalize first.close later' middle' = last' at firstAlike ⊢
      cases firstAlike with
      | ok one =>
        cases secondAlike with
        | ok two => exact .ok (exchange_register capitals one two)

end WrittenMacro

/-! ## The rest of a document -/

/-- A label is documented alike. -/
theorem Interchangeable.documentLabel {first second : Progress}
    (same : Interchangeable first.scanner second.scanner) (name : Text) (line : Nat)
    (comments : List Text) :
    Interchangeable (documentLabel file name line comments first).scanner
      (documentLabel file name line comments second).scanner := by
  simp only [Scan.documentLabel]
  split
  · exact same
  · refine ⟨⟨same.agree.tables, same.agree.pins, same.agree.prices⟩, ?_⟩
    simp only [Progress.addRoutine_scanner, same.routines]

/-- One line does the same to both scans. -/
theorem scanLine_interchangeable {first second : Progress}
    (same : Interchangeable first.scanner second.scanner) (number : Nat) (text : Text)
    (pending : Pending) :
    Parallel (fun _ _ => True) (fun after after' =>
        after.1 = after'.1 ∧ Interchangeable after.2.scanner after'.2.scanner)
      (scanLine tree scan none file number text pending first)
      (scanLine tree scan none file number text pending second) := by
  cases pending with
  | block block =>
    simp only [scanLine]
    split
    · have closed := closeBlock_agrees same.agree block block rfl rfl (fun _ _ _ _ => trivial)
        number number
      refine closed.bind fun after after' registered => ?_
      exact .ok ⟨rfl, same.register registered⟩
    · exact .ok ⟨rfl, same⟩
  | comments comments =>
    simp only [scanLine]
    split
    · exact .ok ⟨rfl, same⟩
    · exact .ok ⟨rfl, same⟩
    · exact .ok ⟨rfl, same.documentLabel _ _ _⟩
    · have known : first.scanner.recognises = second.scanner.recognises :=
        funext fun name => same.agree.recognises trivial
      rw [Scanner.parseLine, Scanner.parseLine, known]
      split
      · exact .ok ⟨rfl, same⟩
      · exact .error trivial

/-- The rest of a document does the same to both scans. -/
theorem scanLines_interchangeable {first second : Progress}
    (same : Interchangeable first.scanner second.scanner) (number : Nat) (lines : List Text)
    (pending : Pending) :
    Parallel (fun _ _ => True) (fun last last' => Interchangeable last.scanner last'.scanner)
      (scanLines tree scan none file number lines pending first)
      (scanLines tree scan none file number lines pending second) := by
  induction lines generalizing number pending first second with
  | nil =>
    refine .ok ?_
    rw [finish_scanner, finish_scanner]
    exact same
  | cons text rest ih =>
    rw [scanLines, scanLines]
    refine (scanLine_interchangeable same number text pending).bind ?_
    rintro ⟨next, after⟩ ⟨_, after'⟩ ⟨rfl, still⟩
    exact ih still (number + 1) next

/-- **The order of macro definitions does not matter.**  Two macros are written one after the other
in a document, where no macro is open before them, and no included files are looked for.  Their
names differ, and no line of either body has the other name as its instruction.  If they are
exchanged, the scan of the document comes to its end or is given up as before.  If it comes to its
end, every name has the same size and cycles as before or is undefined as before, and the same
routines are found. -/
theorem scan_exchange_definitions (scanner : Scanner) (tree : FileTree) (file : Option Text)
    {before : List Text} (outside : ∀ name start, ¬ OpenAt before name start)
    (first second : WrittenMacro) (apart : Text.upper first.name ≠ Text.upper second.name)
    (uncalled : ∀ text ∈ first.body, ¬ Line.Invokes text (Text.upper second.name))
    (uncalled' : ∀ text ∈ second.body, ¬ Line.Invokes text (Text.upper first.name))
    (after : List Text) :
    Parallel (fun _ _ => True) (fun progress other =>
        (∀ name, (progress.scanner.macros.find? name).map Macro.price =
          (other.scanner.macros.find? name).map Macro.price) ∧
        progress.scanner.routines = other.scanner.routines)
      (scanner.scan tree (before ++ (first.lines ++ (second.lines ++ after))) none file)
      (scanner.scan tree (before ++ (second.lines ++ (first.lines ++ after))) none file) := by
  rcases soFar_or_stopped scanner tree none file before with
    ⟨pending, progress, above⟩ | ⟨stopped, failed⟩
  · have pendingAt := above.describes.1
    cases pendingAt with
    | block isOpen named collected => exact absurd isOpen (outside _ _)
    | comments shut =>
      rw [above.scan_append, above.scan_append, first.scanLines_append_append,
        second.scanLines_append_append, Nat.add_right_comm _ second.lines.length]
      refine (first.close_exchange second apart uncalled uncalled' progress _ _ _).bind ?_
      intro middle middle' same
      refine (scanLines_interchangeable same _ after (.comments [])).imp ?_
      intro last last' still
      exact ⟨fun name => still.agree.prices (Text.upper name) trivial, still.routines⟩
  · rw [failed, failed]
    exact .error trivial

/-- A macro that takes the place of an earlier one, and calls it, is exchanged with another. -/
theorem scan_exchange_definitions_redefined :
    let before : List Text := ["Sum: MACRO".toList, " nop".toList, "ENDM".toList]
    let sum : WrittenMacro :=
      { name := "sum".toList, header := "MACRO sum".toList, stop := "ENDM".toList
        body := [" add a, b".toList, " Sum ; as before".toList],
        named := by decide, goesOn := by decide, ends := by decide }
    let clear : WrittenMacro :=
      { name := "Clear".toList, header := "Clear: macro".toList, stop := " endm".toList
        body := [" xor a".toList], named := by decide, goesOn := by decide, ends := by decide }
    let after : List Text := ["Both: MACRO".toList, " clear".toList, " SUM".toList, "ENDM".toList]
    ∃ progress, ({} : Scanner).scan {} (before ++ (clear.lines ++ (sum.lines ++ after))) none none =
        .ok progress ∧
      (progress.scanner.macros.find? "Both").map Macro.size = some 3 := by
  intro before sum clear after
  have outside : ∀ name start, ¬ OpenAt before name start := by
    intro name start isOpen
    have below : start < 3 := isOpen.header.lt_length
    have ends : EndsAt before 2 := ⟨"ENDM".toList, rfl, by decide⟩
    obtain rfl : start = 2 := by
      by_contra earlier
      exact isOpen.goesOn 2 (by omega) ends
    obtain ⟨text, found, named⟩ := isOpen.header
    obtain rfl := Option.some.inj found
    have headless : header? (Text.trim "ENDM".toList) = none := by decide
    rw [headless] at named
    cases named
  have uncalled : ∀ text ∈ sum.body, ¬ Line.Invokes text (Text.upper clear.name) := by
    intro text member invokes
    have other : ∀ text ∈ sum.body, Text.upper clear.name ≠
        Text.upper (Line.splitMnemonic (Line.labelAndCode (Line.codeOf text)).2).1 := by decide
    exact other text member (Line.eq_of_invokes invokes)
  have uncalled' : ∀ text ∈ clear.body, ¬ Line.Invokes text (Text.upper sum.name) := by
    intro text member invokes
    have other : ∀ text ∈ clear.body, Text.upper sum.name ≠
        Text.upper (Line.splitMnemonic (Line.labelAndCode (Line.codeOf text)).2).1 := by decide
    exact other text member (Line.eq_of_invokes invokes)
  have outcome : (({} : Scanner).scan {} (before ++ (sum.lines ++ (clear.lines ++ after))) none
      none).toOption.map (fun progress =>
        (progress.scanner.macros.find? "Both").map Macro.size) = some (some 3) := by
    decide +kernel
  have together := scan_exchange_definitions {} {} none outside sum clear (by decide) uncalled
    uncalled' after
  generalize ({} : Scanner).scan {} (before ++ (sum.lines ++ (clear.lines ++ after))) none none =
    result at outcome together
  generalize ({} : Scanner).scan {} (before ++ (clear.lines ++ (sum.lines ++ after))) none none =
    exchanged at together ⊢
  cases together with
  | error failed => cases outcome
  | @ok progress other related =>
    refine ⟨other, rfl, ?_⟩
    have sizes := congrArg (Option.map Prod.fst) (related.1 "Both")
    rw [Option.map_map, Option.map_map] at sizes
    exact sizes.symm.trans (Option.some.inj outcome)

/-- Where one macro calls the other one, their order does matter. -/
example :
    let inner : List Text := ["Inner: MACRO".toList, " nop".toList, "ENDM".toList]
    let outer : List Text := ["Outer: MACRO".toList, " inner".toList, "ENDM".toList]
    let sizeOfOuter? : List Text → Option Int := fun lines =>
      (({} : Scanner).scan {} lines none none).toOption.bind fun progress =>
        (progress.scanner.macros.find? "Outer").map Macro.size
    sizeOfOuter? (inner ++ outer) = some 1 ∧ sizeOfOuter? (outer ++ inner) = some 0 := by
  decide +kernel

end Scan

end Sm83Cost
