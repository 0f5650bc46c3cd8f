import Sm83Cost.Proofs.Cost.Abreast
import Sm83Cost.Proofs.Cost.RunningTotals
import Sm83Cost.Proofs.Cost.Writing

/-!
# One session under two configurations

A configuration says nothing about what a scan finds.  It comes in only where the
cost of a line is looked up, one line after the other.  So if any line has costs
under two configurations that are related in some way, then two analyses that
differ only in the configuration fail alike, or have costs that are related line
by line before they are counted (`analyse_alongside`).  Counting keeps a relation
that does not get lost when related totals are carried along (`tally_alongside`).

An analysis keeps the costs that it has found even if it does not return them,
because their totals cannot be written.  `Gives` says what it keeps, and when it
returns that.
-/

namespace Sm83Cost

set_option autoImplicit false

namespace LineCost

/-- Everything about a line but its own cost and the running total. -/
def besidesCosts (cost : LineCost) : LineCost :=
  { cost with own := {}, running := {} }

/-- The line that is counted with this running total. -/
def countedAt (cost : LineCost) (total : Cost) : LineCost :=
  { cost with counting := true, running := total }

/-- The total behind a line that is counted. -/
def addTo (cost : LineCost) (total : Cost) : Cost :=
  if cost.known then total + cost.own else total

section Fields

variable {cost other : LineCost} (same : cost.besidesCosts = other.besidesCosts)
include same

theorem known_eq : cost.known = other.known :=
  show cost.besidesCosts.known = other.besidesCosts.known from same ▸ rfl

theorem counting_eq : cost.counting = other.counting :=
  show cost.besidesCosts.counting = other.besidesCosts.counting from same ▸ rfl

theorem besidesCosts_countedAt (total total' : Cost) :
    (cost.countedAt total).besidesCosts = (other.countedAt total').besidesCosts := by
  have counted : ∀ (cost : LineCost) (total : Cost), (cost.countedAt total).besidesCosts =
      { cost.besidesCosts with counting := true } := fun _ _ => rfl
  rw [counted, counted, same]

end Fields

end LineCost

namespace Session

/-- The session with another configuration. -/
def under (session : Session) (config : Config) : Session :=
  { session with config }

/-- The session in which the lines of a document are counted. -/
def scannedFor (session : Session) (tree : FileTree) (lines : List Text) (file : Option Text)
    (directory : Option Path) (rescan : Bool) : Session :=
  if rescan then (session.scan tree lines directory file).session else session

/-- The costs are kept for the document.  They are returned if their totals can be written, and
otherwise the analysis gives up. -/
structure Gives (outcome : Outcome (List LineCost)) (file : Option Text)
    (costs : List LineCost) : Prop where
  kept : outcome.session.resultOf? file = some costs
  returned : (totals costs).canWrite = true → outcome.result = .ok costs
  givenUp : (totals costs).canWrite = false → outcome.result = .error (.numeral .tooLongToWrite)

namespace Gives

variable {outcome other : Outcome (List LineCost)} {file : Option Text}
  {costs others : List LineCost}

/-- What is returned is what is kept. -/
theorem eq_of_returned (gives : Gives outcome file costs) {returned : List LineCost}
    (result : outcome.result = .ok returned) : costs = returned := by
  cases written : (totals costs).canWrite with
  | true => exact Except.ok.inj ((gives.returned written).symm.trans result)
  | false => cases (gives.givenUp written).symm.trans result

/-- What is measured on the costs that are returned is measured on those that are kept. -/
theorem returned_of_map {α : Type} {measure : List LineCost → α} {value : α}
    (gives : Gives outcome file costs) (measured : outcome.result.map measure = .ok value) :
    outcome.result = .ok costs ∧ measure costs = value := by
  cases result : outcome.result with
  | error fault =>
    rw [result] at measured
    cases measured
  | ok returned =>
    rw [result] at measured
    obtain rfl := gives.eq_of_returned result
    exact ⟨rfl, Except.ok.inj measured⟩

/-- What is noted before lines are counted makes no difference. -/
theorem after (gives : Gives outcome file costs) (noted : List Record) :
    Gives { outcome with journal := noted ++ outcome.journal } file costs :=
  ⟨gives.kept, gives.returned, gives.givenUp⟩

/-- Where both totals can be written, both costs are returned. -/
theorem both_returned (first : Gives outcome file costs) (second : Gives other file others) :
    (totals costs).canWrite = true → (totals others).canWrite = true →
      outcome.result = .ok costs ∧ other.result = .ok others :=
  fun written written' => ⟨first.returned written, second.returned written'⟩

end Gives

/-! ## Scanning -/

/-- A scan takes no account of the configuration. -/
theorem scan_under (session : Session) (config : Config) (tree : FileTree) (lines : List Text)
    (directory : Option Path) (file : Option Text) :
    (session.under config).scan tree lines directory file =
      { session.scan tree lines directory file with
          session := (session.scan tree lines directory file).session.under config } := by
  have scanner : (session.under config).scanner = session.scanner := rfl
  unfold scan
  rw [scanner]
  split <;> rfl

/-! ## Lines -/

section Lines

variable {related : LineCost → LineCost → Prop} {first second : Session}

/-- Related costs are found on a line of a document. -/
theorem visitLine_alongside (scanners : first.scanner = second.scanner)
    (resolves : ∀ line, Parallel Eq related (first.resolve line) (second.resolve line))
    (plain : ∀ line, related { line } { line }) (inside : Bool) (number : Nat) (text : Text) :
    Parallel Eq (fun visit visit' => related visit.1.cost visit'.1.cost ∧ visit.2 = visit'.2)
      (first.visitLine inside number text) (second.visitLine inside number text) := by
  rw [visitLine, visitLine, scanners]
  refine Parallel.bind (.refl (fun _ => rfl) (fun _ => rfl) _) ?_
  rintro line _ rfl
  split
  · exact .ok ⟨plain line, rfl⟩
  · exact (resolves line).bind fun cost other costs => .ok ⟨costs, rfl⟩

/-- Related costs are found on all lines of a document, up to the same line. -/
theorem visitLines_alongside (scanners : first.scanner = second.scanner)
    (resolves : ∀ line, Parallel Eq related (first.resolve line) (second.resolve line))
    (plain : ∀ line, related { line } { line }) (inside : Bool) (number : Nat)
    (lines : List Text) :
    List.Forall₂ related ((first.visitLines inside number lines).1.map Visit.cost)
        ((second.visitLines inside number lines).1.map Visit.cost) ∧
      (first.visitLines inside number lines).2 = (second.visitLines inside number lines).2 := by
  induction lines generalizing inside number with
  | nil => exact ⟨.nil, rfl⟩
  | cons text rest ih =>
    have together := visitLine_alongside scanners resolves plain inside number text
    rw [visitLines, visitLines]
    generalize first.visitLine inside number text = visited at together ⊢
    generalize second.visitLine inside number text = visited' at together ⊢
    cases together with
    | error causes => exact ⟨.nil, congrArg some causes⟩
    | @ok visit visit' both =>
      obtain ⟨costs, after⟩ := both
      obtain ⟨others, faults⟩ := ih visit'.2 (number + 1)
      simp only [after, List.map_cons]
      exact ⟨.cons costs others, faults⟩

end Lines

/-! ## Counting -/

/-- Counting keeps a relation between costs that is kept where related totals are added to. -/
theorem tally_alongside {related : LineCost → LineCost → Prop} (totalled : Cost → Cost → Prop)
    (counts : ∀ {cost other : LineCost} {total total' : Cost}, related cost other →
      totalled total total' → totalled (cost.addTo total) (other.addTo total') ∧
        related (cost.countedAt (cost.addTo total)) (other.countedAt (other.addTo total')))
    (start : Option Int) (number : Nat) (counting : Bool) {total total' : Cost}
    (begins : totalled total total') {costs others : List LineCost}
    (lines : List.Forall₂ related costs others) :
    List.Forall₂ related (tally start number counting total costs)
      (tally start number counting total' others) := by
  induction lines generalizing number counting total total' with
  | nil => exact .nil
  | @cons cost other rest others here _ ih =>
    rw [tally, tally]
    dsimp only
    split
    · obtain ⟨next, counted⟩ := counts here begins
      exact .cons counted (ih (number + 1) true next)
    · exact .cons here (ih (number + 1) false begins)

/-- What counting lines gives, once all of them are visited. -/
theorem countLines_gives {session : Session} {lines : List Text} {file : Option Text}
    (complete : (session.visitLines false 0 lines).2 = none) :
    Gives (session.countLines lines file) file
      (tally (session.startPoints.startOf? file) 0 (session.startPoints.startOf? file).isNone {}
        ((session.visitLines false 0 lines).1.map Visit.cost)) := by
  unfold countLines
  generalize session.visitLines false 0 lines = visited at complete ⊢
  obtain ⟨visits, fault⟩ := visited
  obtain rfl : fault = none := complete
  dsimp only
  generalize tally _ _ _ _ _ = costs
  rw [Cost.writable_eq]
  cases written : (totals costs).canWrite with
  | true =>
    refine ⟨by simp [resultOf?], fun _ => rfl, fun unwritten => ?_⟩
    cases written.symm.trans unwritten
  | false =>
    refine ⟨by simp [resultOf?], fun fits => ?_, fun _ => rfl⟩
    cases written.symm.trans fits

theorem countLines_of_fault {session : Session} {lines : List Text} {file : Option Text}
    {fault : Fault} (failed : (session.visitLines false 0 lines).2 = some fault) :
    (session.countLines lines file).result = .error fault := by
  unfold countLines
  generalize session.visitLines false 0 lines = visited at failed ⊢
  obtain ⟨visits, stopped⟩ := visited
  obtain rfl : stopped = some fault := failed
  rfl

/-- Where the lines of a document are visited up to the same line in two sessions, counting them
fails alike, or counts what each of them finds. -/
theorem countLines_together {first second : Session} {lines : List Text} {file : Option Text}
    {start start' : Option Int} (starts : first.startPoints.startOf? file = start)
    (starts' : second.startPoints.startOf? file = start')
    (faults : (first.visitLines false 0 lines).2 = (second.visitLines false 0 lines).2) :
    (∃ fault, (first.countLines lines file).result = .error fault ∧
      (second.countLines lines file).result = .error fault) ∨
    (first.visitLines false 0 lines).2 = none ∧
      Gives (first.countLines lines file) file
        (tally start 0 start.isNone {} ((first.visitLines false 0 lines).1.map Visit.cost)) ∧
      Gives (second.countLines lines file) file
        (tally start' 0 start'.isNone {} ((second.visitLines false 0 lines).1.map Visit.cost)) := by
  subst starts starts'
  cases stopped : (first.visitLines false 0 lines).2 with
  | some fault =>
    exact .inl ⟨fault, countLines_of_fault stopped, countLines_of_fault (faults ▸ stopped)⟩
  | none => exact .inr ⟨rfl, countLines_gives stopped, countLines_gives (faults ▸ stopped)⟩

/-! ## Documents -/

/-- Where the costs of any line are related, counting the lines of a document fails alike, or
related costs are counted. -/
theorem countLines_alongside {related : LineCost → LineCost → Prop} {first second : Session}
    (scanners : first.scanner = second.scanner)
    (resolves : ∀ line, Parallel Eq related (first.resolve line) (second.resolve line))
    (plain : ∀ line, related { line } { line }) (lines : List Text) (file : Option Text)
    {start : Option Int} (starts : first.startPoints.startOf? file = start)
    (starts' : second.startPoints.startOf? file = start) :
    (∃ fault, (first.countLines lines file).result = .error fault ∧
      (second.countLines lines file).result = .error fault) ∨
    ∃ costs others, List.Forall₂ related costs others ∧
      Gives (first.countLines lines file) file (tally start 0 start.isNone {} costs) ∧
      Gives (second.countLines lines file) file (tally start 0 start.isNone {} others) := by
  obtain ⟨costs, faults⟩ := visitLines_alongside scanners resolves plain false 0 lines
  rcases countLines_together starts starts' faults with failed | ⟨-, here, there⟩
  · exact .inl failed
  · exact .inr ⟨_, _, costs, here, there⟩

/-- **Where the costs of any line under two configurations are related, two analyses of a document
fail alike or find related costs on all its lines**, which are then counted. -/
theorem analyse_alongside {related : LineCost → LineCost → Prop} {session : Session}
    {tree : FileTree} {lines : List Text} {file : Option Text} {directory : Option Path}
    {rescan : Bool} {first second : Config}
    (resolves : ∀ line, Parallel Eq related
      (((session.scannedFor tree lines file directory rescan).under first).resolve line)
      (((session.scannedFor tree lines file directory rescan).under second).resolve line))
    (plain : ∀ line, related { line } { line }) :
    let start := session.startPoints.startOf? file
    (∃ fault,
      ((session.under first).analyse tree lines file directory rescan).result = .error fault ∧
      ((session.under second).analyse tree lines file directory rescan).result = .error fault) ∨
    ∃ costs others, List.Forall₂ related costs others ∧
      Gives ((session.under first).analyse tree lines file directory rescan) file
        (tally start 0 start.isNone {} costs) ∧
      Gives ((session.under second).analyse tree lines file directory rescan) file
        (tally start 0 start.isNone {} others) := by
  cases rescan with
  | false =>
    simp only [analyse, Bool.false_eq_true, if_false]
    have scanners : (session.under first).scanner = (session.under second).scanner := rfl
    exact countLines_alongside scanners resolves plain lines file rfl rfl
  | true =>
    have points : (session.scan tree lines directory file).session.startPoints =
        session.startPoints := by rw [scan_session]
    simp only [scannedFor, if_true] at resolves
    simp only [analyse, if_true, scan_under]
    generalize session.scan tree lines directory file = scanned at resolves points ⊢
    have starts : scanned.session.startPoints.startOf? file = session.startPoints.startOf? file :=
      by rw [points]
    cases scanned.result with
    | error fault => exact .inl ⟨fault, rfl, rfl⟩
    | ok done =>
      have scanners : (scanned.session.under first).scanner =
          (scanned.session.under second).scanner := rfl
      have counted := countLines_alongside scanners resolves plain lines file starts starts
      rcases counted with failed | ⟨costs, others, found, here, there⟩
      · exact .inl failed
      · exact .inr ⟨costs, others, found, here.after _, there.after _⟩

end Session

end Sm83Cost
