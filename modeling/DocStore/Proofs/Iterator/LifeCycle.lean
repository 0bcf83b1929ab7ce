import DocStore.Proofs.Iterator.Recording
/-!
The life of an iterator over any cursor. Its reads go to the cursor while they give documents. The first
one that does not gives the cursor up, and so do closing and discarding, whichever comes first; nothing
is asked of the cursor after that, and it is closed once.
-/
namespace DocStore

open DocumentIterator (readFailure closeFailure closedFailure noCurrentDocument)

/-- A read that gave a document. -/
structure Delivery : Type 1 where
  α : Type
  decoder : Decodable α
  document : Document
  value : α
  decoded : Decodable.decode document = .ok value

namespace Delivery

def call (d : Delivery) : CursorCall := .advance (.ok true) (some d.document)

def moment (d : Delivery) : Moment := .read (.ok (some d.value))

end Delivery

/-- A cursor answers with a failure, moves without standing on a document, or stands on one that cannot
be decoded. -/
inductive ReadFails (α : Type) [Decodable α] :
    Except StoreError Bool → Option Document → StoreError → Prop where
  | cursor (e : StoreError) (current : Option Document) : ReadFails α (.error e) current e
  | nowhere : ReadFails α (.ok true) none noCurrentDocument
  | undecoded {document : Document} {reason : String}
      (h : (Decodable.decode document : Except String α) = .error reason) :
      ReadFails α (.ok true) (some document) (.decode reason)

/-- The first read that gave no document. -/
inductive Ending : Type 1 where
  | exhausted (α : Type) (current : Option Document)
  | failed (α : Type) (decoder : Decodable α) (advanced : Except StoreError Bool)
      (current : Option Document) (e : StoreError) (fails : ReadFails α advanced current e)

namespace Ending

def call : Ending → CursorCall
  | .exhausted _ current => .advance (.ok false) current
  | .failed _ _ advanced current _ _ => .advance advanced current

def moment : Ending → Moment
  | .exhausted α _ => .read (.ok (none : Option α))
  | .failed α _ _ _ e _ => .read (.error (readFailure e) : Except Failure (Option α))

def state : Ending → IteratorState
  | .exhausted _ _ => .exhausted
  | .failed _ _ _ _ _ _ => .failed

def error : Ending → Option StoreError
  | .exhausted _ _ => none
  | .failed _ _ _ _ e _ => some e

end Ending

namespace Moment

/-- A read that neither gives a document nor fails. -/
def Quiet (m : Moment) : Prop := ∃ α : Type, m = .read (.ok (none : Option α))

/-- What a closed iterator answers: reads fail, and closing again does nothing. -/
def AfterClose (m : Moment) : Prop :=
  m = .closed (.ok ()) ∨ ∃ α : Type, m = .read (.error closedFailure : Except Failure (Option α))

def isRead : Moment → Bool
  | .read _ => true
  | .closed _ => false

end Moment

/-- What the first call of close answers, when the cursor was closed with the given answer: closing
passes it on if it is the one that closes the cursor. -/
def closeAnswer (ending : Option Ending) (released : Except StoreError Unit) : Except Failure Unit :=
  if ending.isNone then released.mapError closeFailure else .ok ()

/-- The error that an iterator shows: that of the last read that failed. -/
def lastError (ending : Option Ending) (closing : List Moment) : Option StoreError :=
  if closing.any Moment.isRead then some .cursorClosed else ending.bind Ending.error

/-- The iterators that there are after some answers. -/
inductive Reached {γ : Type} : List Moment → DocumentIterator (Recorded γ) → Prop where
  | opened (delivered : List Delivery) (c : Recorded γ) (context : Context)
      (hlog : c.log = delivered.map Delivery.call) :
      Reached (delivered.map Delivery.moment) ⟨some c, none, context, .opened, none⟩
  | ended (delivered : List Delivery) (ending : Ending) (quiet : List Moment) (c : Recorded γ)
      (context : Context) (released : Except StoreError Unit)
      (hlog : c.log = delivered.map Delivery.call ++ [ending.call, .close released])
      (hquiet : ∀ m ∈ quiet, m.Quiet) :
      Reached (delivered.map Delivery.moment ++ ending.moment :: quiet)
        ⟨none, some c, context, ending.state, ending.error⟩
  | closed (delivered : List Delivery) (ending : Option Ending) (quiet later : List Moment)
      (c : Recorded γ) (context : Context) (released : Except StoreError Unit)
      (hlog : c.log =
        delivered.map Delivery.call ++ ending.toList.map Ending.call ++ [.close released])
      (hquiet : ∀ m ∈ quiet, m.Quiet) (hopened : ending = none → quiet = [])
      (hlater : ∀ m ∈ later, m.AfterClose) :
      Reached
        (delivered.map Delivery.moment ++ ending.toList.map Ending.moment ++ quiet ++
          .closed (closeAnswer ending released) :: later)
        ⟨none, some c, context, .closed, lastError ending later⟩

variable {γ : Type} [Cursor γ]

/-- A read calls the cursor once, and what it gives follows from what the cursor answers. -/
theorem read_cases (α : Type) [Decodable α] (alive : Except StoreError Unit) (c : Recorded γ) :
    ∃ advanced current,
      (DocumentIterator.read (α := α) alive c).2.log = c.log ++ [.advance advanced current] ∧
      ((∃ d v, advanced = .ok true ∧ current = some d ∧ (Decodable.decode d : Except String α) = .ok v ∧
          (DocumentIterator.read alive c).1 = .ok (some v)) ∨
        (advanced = .ok false ∧ (DocumentIterator.read (α := α) alive c).1 = .ok none) ∨
        ∃ e, ReadFails α advanced current e ∧
          (DocumentIterator.read (α := α) alive c).1 = .error e) := by
  simp only [DocumentIterator.read, Cursor.advance, Cursor.current]
  rcases Cursor.advance alive c.cursor with ⟨advanced, cursor⟩
  rcases advanced with e | (_ | _)
  · exact ⟨_, _, rfl, .inr (.inr ⟨e, .cursor e _, rfl⟩)⟩
  · exact ⟨_, _, rfl, .inr (.inl ⟨rfl, rfl⟩)⟩
  · dsimp only
    cases hcurrent : Cursor.current cursor with
    | none => exact ⟨_, _, rfl, .inr (.inr ⟨_, .nowhere, rfl⟩)⟩
    | some d =>
      dsimp only
      cases hdecode : (Decodable.decode d : Except String α) with
      | ok v => exact ⟨_, _, rfl, .inl ⟨d, v, rfl, rfl, hdecode, rfl⟩⟩
      | error reason => exact ⟨_, _, rfl, .inr (.inr ⟨_, .undecoded hdecode, rfl⟩)⟩

/-- Once the cursor is given up, closing only says that the iterator is closed. -/
theorem close_of_released (alive : Except StoreError Unit) (released : Option γ) (context : Context)
    (state : IteratorState) (error : Option StoreError) :
    DocumentIterator.close alive ⟨none, released, context, state, error⟩ =
      (.ok (), ⟨none, released, context, .closed, error⟩) := rfl

namespace Reached

variable {moments : List Moment} {it : DocumentIterator (Recorded γ)}

theorem tryNext (h : Reached moments it) (α : Type) [decoder : Decodable α]
    (alive : Except StoreError Unit) :
    Reached (moments ++ [.read (it.tryNext (α := α) alive).1]) (it.tryNext (α := α) alive).2 := by
  cases h with
  | opened delivered c context hlog =>
    -- Only an iterator that is open asks its cursor: it stays open, is exhausted, or fails.
    obtain ⟨advanced, current, hcall, hread⟩ := read_cases α alive c
    simp only [DocumentIterator.tryNext]
    generalize DocumentIterator.read (α := α) alive c = result at hcall hread ⊢
    obtain ⟨answer, c'⟩ := result
    replace hcall : c'.log = c.log ++ [.advance advanced current] := hcall
    obtain ⟨d, v, rfl, rfl, hdecode, rfl⟩ | ⟨rfl, rfl⟩ | ⟨e, hfails, rfl⟩ := hread
    · have hopened := opened (delivered ++ [⟨α, decoder, d, v, hdecode⟩]) c' context
        (by simp [hcall, hlog, Delivery.call])
      simpa [Delivery.moment] using hopened
    · exact ended delivered (.exhausted α current) [] (Cursor.close alive c').2 context
        (Cursor.close alive c').1 (by rw [Recorded.close_log, hcall, hlog]; simp [Ending.call]) (by simp)
    · exact ended delivered (.failed α decoder advanced current e hfails) []
        (Cursor.close alive c').2 context (Cursor.close alive c').1
        (by rw [Recorded.close_log, hcall, hlog]; simp [Ending.call]) (by simp)
  | ended delivered ending quiet c context released hlog hquiet =>
    have hended := ended delivered ending (quiet ++ [.read (.ok (none : Option α))]) c context released
      hlog (by simpa [or_imp, forall_and] using ⟨hquiet, α, rfl⟩)
    cases ending <;> simpa [DocumentIterator.tryNext, Ending.state] using hended
  | closed delivered ending quiet later c context released hlog hquiet hopened hlater =>
    have hclosed := closed delivered ending quiet
      (later ++ [.read (.error closedFailure : Except Failure (Option α))]) c context released hlog
      hquiet hopened (by simpa [or_imp, forall_and] using ⟨hlater, .inr ⟨α, rfl⟩⟩)
    simpa [DocumentIterator.tryNext, lastError, Moment.isRead] using hclosed

theorem close (h : Reached moments it) (alive : Except StoreError Unit) :
    Reached (moments ++ [.closed (it.close alive).1]) (it.close alive).2 := by
  cases h with
  | opened delivered c context hlog =>
    have hclosed := closed delivered none [] [] (Cursor.close alive c).2 context
      (Cursor.close alive c).1 (by rw [Recorded.close_log, hlog]; simp) (by simp) (fun _ => rfl) (by simp)
    simpa [DocumentIterator.close, DocumentIterator.release, closeAnswer, lastError] using hclosed
  | ended delivered ending quiet c context released hlog hquiet =>
    have hclosed := closed delivered (some ending) quiet [] c context released (by simp [hlog]) hquiet
      (by simp) (by simp)
    rw [close_of_released]
    simpa [closeAnswer, lastError] using hclosed
  | closed delivered ending quiet later c context released hlog hquiet hopened hlater =>
    have hclosed := closed delivered ending quiet (later ++ [.closed (.ok ())]) c context released hlog
      hquiet hopened (by simpa [or_imp, forall_and] using ⟨hlater, .inl rfl⟩)
    rw [close_of_released]
    simpa [lastError, Moment.isRead] using hclosed

theorem on {d : Documents (Recorded γ)} (h : Reached moments d.iterator) (call : ReaderCall) :
    Reached (moments ++ (call.on d).1.moment.toList) (call.on d).2.iterator := by
  obtain ⟨hmoment, hiterator⟩ | ⟨α, _, alive, hmoment, hiterator⟩ | ⟨alive, hmoment, hiterator⟩ :=
    call.on_cases d
  · simpa [hmoment, hiterator] using h
  · simpa [hmoment, hiterator] using h.tryNext α alive
  · simpa [hmoment, hiterator] using h.close alive

theorem onAll {d : Documents (Recorded γ)} (h : Reached moments d.iterator)
    (calls : List ReaderCall) :
    Reached (moments ++ (ReaderCall.onAll calls d).1.filterMap Visit.moment)
      (ReaderCall.onAll calls d).2.iterator := by
  induction calls generalizing moments d with
  | nil => simpa [ReaderCall.onAll] using h
  | cons call calls ih =>
    have hrest := ih (h.on call)
    cases hmoment : (call.on d).1.moment <;>
      simpa [ReaderCall.onAll, List.filterMap_cons, hmoment] using hrest

end Reached

/-- The life of an iterator that gave some answers to a reader, was left by it, and was dropped. The
reads that gave documents come first, then the one that gave none, if it was reached, then reads that say
so, and what was answered from the first call of close on. -/
structure LifeCycle (moments : List Moment) (left dropped : DocumentIterator (Recorded γ))
    (delivered : List Delivery) (ending : Option Ending) (quiet closing : List Moment)
    (released : Except StoreError Unit) : Prop where
  moments_eq : moments =
    delivered.map Delivery.moment ++ ending.toList.map Ending.moment ++ quiet ++ closing
  quiet_reads : ∀ m ∈ quiet, m.Quiet
  quiet_of_opened : ending = none → quiet = []
  closing_answers : closing = [] ∨ ∃ later,
    closing = .closed (closeAnswer ending released) :: later ∧ ∀ m ∈ later, m.AfterClose
  /-- The cursor is asked for a document by these reads only, and closed once, after them. -/
  log : dropped.log =
    delivered.map Delivery.call ++ ending.toList.map Ending.call ++ [.close released]
  cursor : dropped.cursor = none
  state : left.state = if closing.isEmpty then ending.elim .opened Ending.state else .closed
  error : left.error = lastError ending closing

theorem Reached.lifeCycle {moments : List Moment} {it : DocumentIterator (Recorded γ)}
    (h : Reached moments it) (alive : Except StoreError Unit) :
    ∃ delivered ending quiet closing released,
      LifeCycle moments it (it.discard alive) delivered ending quiet closing released := by
  cases h with
  | opened delivered c context hlog =>
    exact ⟨delivered, none, [], [], (Cursor.close alive c).1,
      { moments_eq := by simp
        quiet_reads := by simp
        quiet_of_opened := fun _ => rfl
        closing_answers := .inl rfl
        log := by
          simp [DocumentIterator.discard, DocumentIterator.release, DocumentIterator.log, Recorded.close_log,
            hlog]
        cursor := rfl
        state := rfl
        error := rfl }⟩
  | ended delivered ending quiet c context released hlog hquiet =>
    exact ⟨delivered, some ending, quiet, [], released,
      { moments_eq := by simp
        quiet_reads := hquiet
        quiet_of_opened := nofun
        closing_answers := .inl rfl
        log := by simp [DocumentIterator.discard, DocumentIterator.release, DocumentIterator.log, hlog]
        cursor := rfl
        state := rfl
        error := rfl }⟩
  | closed delivered ending quiet later c context released hlog hquiet hopened hlater =>
    exact ⟨delivered, ending, quiet, .closed (closeAnswer ending released) :: later, released,
      { moments_eq := by simp
        quiet_reads := hquiet
        quiet_of_opened := hopened
        closing_answers := .inr ⟨later, rfl, hlater⟩
        log := by simp [DocumentIterator.discard, DocumentIterator.release, DocumentIterator.log, hlog]
        cursor := rfl
        state := rfl
        error := by simp [lastError, Moment.isRead] }⟩

/-- Whatever its cursor does and however a reader calls it, an iterator goes through its life in order.
What the reader is shown is what the iterator answers, and it is the same whether or not the calls of
the cursor are recorded. -/
theorem ReaderCall.onAll_lifeCycle (cursor : γ) (context : Context) (calls : List ReaderCall)
    (alive : Except StoreError Unit) :
    let run := ReaderCall.onAll calls ⟨.ofCursor (⟨cursor, []⟩ : Recorded γ) context, false⟩
    (ReaderCall.onAll calls ⟨.ofCursor cursor context, false⟩).1 = run.1 ∧
    (∀ visit ∈ run.1, visit.Told) ∧
    ∃ delivered ending quiet closing released,
      LifeCycle (run.1.filterMap Visit.moment) run.2.iterator (run.2.iterator.discard alive)
        delivered ending quiet closing released := by
  intro run
  have hstart : Reached [] (.ofCursor (⟨cursor, []⟩ : Recorded γ) context) :=
    .opened [] ⟨cursor, []⟩ context rfl
  have hreached : Reached (run.1.filterMap Visit.moment) run.2.iterator :=
    Reached.onAll (d := ⟨_, false⟩) hstart calls
  refine ⟨?_, ReaderCall.onAll_told calls _, hreached.lifeCycle alive⟩
  exact congrArg Prod.fst
    (ReaderCall.onAll_forget calls ⟨.ofCursor (⟨cursor, []⟩ : Recorded γ) context, false⟩)

end DocStore
