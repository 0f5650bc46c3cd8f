import Sm83Cost.Proofs.Cost.Abreast

/-!
# Documents of one session do not interfere

One session serves many documents.  It keeps a start point and a last result for
each, but only one scanner, whose macros are those of the document that was
scanned last, possibly only in part.

Still no document notices the others.  A session is asked for one thing after
the other, about any documents in any order, and `transcript` lists what it
answers.  Leaving out everything that was asked about other documents leaves the
answers for one document as they are (`transcript_isolated`).  The reason is
that an analysis scans its document first, and that the outcome of a scan
depends on nothing in the scanner that an earlier scan could have changed.

The proof has the two parts that such proofs have: a request about another
document changes nothing that matters to this one (`sameFor_serve_of_other`), and
a request about this one is answered alike in two sessions that are the same as
far as it is concerned (`serve_of_sameFor`).
-/

namespace Sm83Cost.Session

set_option autoImplicit false

/-! ## Requests and answers -/

/-- What a session can be asked for.  Files may change between analyses, so each analysis comes
with the files that are there at the time. -/
inductive Request where
  | setStart (file : Option Text) (line : Int)
  | clearStart (file : Option Text)
  | toggleStart (file : Option Text) (line : Int)
  | askStart (file : Option Text)
  | hasStart (file : Option Text)
  /-- Takes the start points of all documents away. -/
  | clearStarts
  /-- Scans a document and counts its lines. -/
  | analyse (tree : FileTree) (lines : List Text) (file : Option Text) (directory : Option Path)
  /-- Asks for the last result. -/
  | askResult (file : Option Text)

/-- What a session answers. -/
inductive Answer where
  | done
  | start (line : Option Int)
  | hasStart (present : Bool)
  | analysed (result : Except Fault (List LineCost))
  | result (kept : Option (List LineCost))

/-- The key of the document that a request is about, if it is about one. -/
def Request.document? : Request → Option Text
  | .setStart file _ => some (documentKey file)
  | .clearStart file => some (documentKey file)
  | .toggleStart file _ => some (documentKey file)
  | .askStart file => some (documentKey file)
  | .hasStart file => some (documentKey file)
  | .clearStarts => none
  | .analyse _ _ file _ => some (documentKey file)
  | .askResult file => some (documentKey file)

/-- The request is about the document with this key, or about all documents. -/
def Request.concerns (key : Text) (request : Request) : Bool :=
  request.document?.all (· == key)

/-- Serves a request: the session afterwards, and the answer. -/
def serve (session : Session) : Request → Session × Answer
  | .setStart file line =>
    ({ session with startPoints := session.startPoints.set file line }, .done)
  | .clearStart file => ({ session with startPoints := session.startPoints.clear file }, .done)
  | .toggleStart file line =>
    ({ session with startPoints := (session.startPoints.toggle file line).1 },
      .start (session.startPoints.toggle file line).2)
  | .askStart file => (session, .start (session.startPoints.startOf? file))
  | .hasStart file => (session, .hasStart (session.startPoints.has file))
  | .clearStarts => ({ session with startPoints := .empty }, .done)
  | .analyse tree lines file directory =>
    ((session.analyse tree lines file directory true).session,
      .analysed (session.analyse tree lines file directory true).result)
  | .askResult file => (session, .result (session.resultOf? file))

/-- The requests in order, each with its answer. -/
def transcript : Session → List Request → List (Request × Answer)
  | _, [] => []
  | session, request :: rest =>
    (request, (session.serve request).2) :: (session.serve request).1.transcript rest

/-! ## What a document depends on -/

/-- The sessions are the same as far as the document with this key is concerned: they have the
same settings, and the same start point and last result for it. -/
structure SameFor (key : Text) (first second : Session) : Prop where
  config : first.config = second.config
  table : first.table = second.table
  opcodes : first.scanner.table = second.scanner.table
  pins : first.scanner.pinned = second.scanner.pinned
  start : first.startPoints.get? key = second.startPoints.get? key
  result : first.results.get? key = second.results.get? key

theorem SameFor.refl (key : Text) (session : Session) : SameFor key session session :=
  ⟨rfl, rfl, rfl, rfl, rfl, rfl⟩

theorem SameFor.trans {key : Text} {first second third : Session}
    (one : SameFor key first second) (two : SameFor key second third) :
    SameFor key first third :=
  ⟨one.config.trans two.config, one.table.trans two.table, one.opcodes.trans two.opcodes,
    one.pins.trans two.pins, one.start.trans two.start, one.result.trans two.result⟩

/-- Start points may change alike. -/
theorem SameFor.withStarts {key : Text} {first second : Session} (same : SameFor key first second)
    {points others : StartPoints} (starts : points.get? key = others.get? key) :
    SameFor key { first with startPoints := points } { second with startPoints := others } :=
  ⟨same.config, same.table, same.opcodes, same.pins, starts, same.result⟩

/-! ## Requests about other documents -/

/-- An analysis changes no more than the macros and routines of the scanner and the result of the
document. -/
theorem analyse_session (session : Session) (tree : FileTree) (lines : List Text)
    (file : Option Text) (directory : Option Path) :
    ∃ scanner results,
      (session.analyse tree lines file directory true).session = { session with scanner, results } ∧
      scanner.table = session.scanner.table ∧ scanner.pinned = session.scanner.pinned ∧
      ∀ key, key ≠ documentKey file → results.get? key = session.results.get? key := by
  -- A scan goes abreast with itself, so table and pinned macros are those of before.
  have itself : List.Forall₂ Eq lines lines := List.forall₂_same.2 fun _ _ => rfl
  obtain ⟨scanners, -⟩ := scan_abreast View.indifferent_whole (Eq.refl session.scanner.table)
    rfl tree (.inr rfl : Scan.Comparable Eq directory) file itself
  have scanned := scan_session session tree lines directory file
  simp only [analyse, if_true]
  split
  · exact ⟨_, session.results, scanned, scanners.tables.1, scanners.pins.1, fun _ _ => rfl⟩
  · obtain ⟨results, counted, kept⟩ :=
      countLines_session (session.scan tree lines directory file).session lines file
    rw [scanned] at kept
    refine ⟨_, results, ?_, scanners.tables.1, scanners.pins.1, kept⟩
    rw [counted, scanned]

/-- The start point of one document may be moved without notice by the others. -/
theorem get?_toggle_of_ne (points : StartPoints) (file : Option Text) (line : Int) {key : Text}
    (other : key ≠ documentKey file) : (points.toggle file line).1.get? key = points.get? key := by
  unfold StartPoints.toggle
  split
  · exact Store.get?_erase_of_ne points other
  · exact Store.get?_put_of_ne points other line

/-- A request about another document leaves a session the same for this one. -/
theorem sameFor_serve_of_other {key : Text} (session : Session) {request : Request}
    (elsewhere : request.concerns key = false) :
    SameFor key (session.serve request).1 session := by
  have other : ∀ {file : Option Text}, (documentKey file == key) = false →
      key ≠ documentKey file := fun differs same => by simp [same] at differs
  cases request with
  | setStart file line =>
    exact (SameFor.refl key session).withStarts
      (Store.get?_put_of_ne session.startPoints (other elsewhere) line)
  | clearStart file =>
    exact (SameFor.refl key session).withStarts
      (Store.get?_erase_of_ne session.startPoints (other elsewhere))
  | toggleStart file line =>
    exact (SameFor.refl key session).withStarts
      (get?_toggle_of_ne session.startPoints file line (other elsewhere))
  | askStart file => exact .refl key session
  | hasStart file => exact .refl key session
  | clearStarts => cases elsewhere
  | analyse tree lines file directory =>
    obtain ⟨scanner, results, after, opcodes, pins, kept⟩ :=
      analyse_session session tree lines file directory
    rw [serve, after]
    exact ⟨rfl, rfl, opcodes, pins, rfl, kept key (other elsewhere)⟩
  | askResult file => exact .refl key session

/-! ## Requests about this document -/

/-- Two sessions that are the same for a document analyse it alike and stay the same for it. -/
theorem analyse_of_sameFor {file : Option Text} {first second : Session}
    (same : SameFor (documentKey file) first second) (tree : FileTree) (lines : List Text)
    (directory : Option Path) :
    (first.analyse tree lines file directory true).result =
        (second.analyse tree lines file directory true).result ∧
      SameFor (documentKey file) (first.analyse tree lines file directory true).session
        (second.analyse tree lines file directory true).session := by
  have itself : List.Forall₂ Eq lines lines := List.forall₂_same.2 fun _ _ => rfl
  obtain ⟨results, kept⟩ := analyse_abreast View.indifferent_whole same.config same.table
    same.opcodes same.pins same.start tree (.inr rfl : Scan.Comparable Eq directory) itself
  have everything : look .whole = id := by
    rw [look, LineCost.seen_whole, List.map_id_fun]
  simp only [everything, Option.map_id, id_eq, Except.map_id] at results kept
  refine ⟨results, ?_⟩
  obtain ⟨scanner, costs, after, opcodes, pins, -⟩ :=
    analyse_session first tree lines file directory
  obtain ⟨scanner', costs', after', opcodes', pins', -⟩ :=
    analyse_session second tree lines file directory
  rw [after, after'] at kept ⊢
  exact ⟨same.config, same.table, opcodes.trans (same.opcodes.trans opcodes'.symm),
    pins.trans (same.pins.trans pins'.symm), same.start, kept same.result⟩

/-- A request that concerns a document is answered alike in two sessions that are the same for it,
and they stay the same for it. -/
theorem serve_of_sameFor {key : Text} {first second : Session} (same : SameFor key first second)
    {request : Request} (concerned : request.concerns key = true) :
    (first.serve request).2 = (second.serve request).2 ∧
      SameFor key (first.serve request).1 (second.serve request).1 := by
  have this : ∀ {file : Option Text}, (documentKey file == key) = true → documentKey file = key :=
    fun equal => by simpa using equal
  cases request with
  | setStart file line =>
    obtain rfl := this concerned
    exact ⟨rfl, same.withStarts (by simp [StartPoints.set])⟩
  | clearStart file =>
    obtain rfl := this concerned
    exact ⟨rfl, same.withStarts (by simp [StartPoints.clear])⟩
  | toggleStart file line =>
    obtain rfl := this concerned
    have there : first.startPoints.startOf? file = second.startPoints.startOf? file := same.start
    simp only [serve, StartPoints.toggle, there]
    split
    · exact ⟨rfl, same.withStarts (by simp [StartPoints.clear])⟩
    · exact ⟨rfl, same.withStarts (by simp [StartPoints.set])⟩
  | askStart file =>
    obtain rfl := this concerned
    exact ⟨congrArg Answer.start same.start, same⟩
  | hasStart file =>
    obtain rfl := this concerned
    refine ⟨?_, same⟩
    simp only [serve, StartPoints.has, Store.contains, same.start]
  | clearStarts => exact ⟨rfl, same.withStarts rfl⟩
  | analyse tree lines file directory =>
    obtain rfl := this concerned
    obtain ⟨results, still⟩ := analyse_of_sameFor same tree lines directory
    exact ⟨congrArg Answer.analysed results, still⟩
  | askResult file =>
    obtain rfl := this concerned
    exact ⟨congrArg Answer.result same.result, same⟩

/-! ## All requests -/

/-- The answers for a document are the same in two sessions that are the same for it, when the
requests about other documents are left out in one of them. -/
theorem transcript_of_sameFor {key : Text} {first second : Session}
    (same : SameFor key first second) (requests : List Request) :
    (first.transcript requests).filter (fun entry => entry.1.concerns key) =
      second.transcript (requests.filter (·.concerns key)) := by
  induction requests generalizing first second with
  | nil => rfl
  | cons request rest ih =>
    rw [transcript]
    cases concerned : request.concerns key with
    | false =>
      rw [List.filter_cons_of_neg (by simpa using concerned),
        List.filter_cons_of_neg (by simpa using concerned)]
      exact ih ((sameFor_serve_of_other first concerned).trans same)
    | true =>
      obtain ⟨answers, still⟩ := serve_of_sameFor same concerned
      rw [List.filter_cons_of_pos (by simpa using concerned),
        List.filter_cons_of_pos (by simpa using concerned), transcript, answers, ih still]

/-- **Documents of one session do not interfere.**  Whatever a session is asked for, about any
documents in any order, the answers for one document are those that it would have got if nothing
had been asked about any other. -/
theorem transcript_isolated (session : Session) (key : Text) (requests : List Request) :
    (session.transcript requests).filter (fun entry => entry.1.concerns key) =
      session.transcript (requests.filter (·.concerns key)) :=
  transcript_of_sameFor (.refl key session) requests

end Sm83Cost.Session
