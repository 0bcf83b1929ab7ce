import DocStore.Failure
import DocStore.Context
import DocStore.Store.Cursor
import DocStore.Value.Decode
/-!
Iterators over the documents of one query. An iterator owns a cursor until it runs out, fails, is
closed or is discarded, and closes the cursor as it gives it up. It is told at every call whether the
context that it was opened in goes on.
-/
namespace DocStore

inductive IteratorState where
  | opened
  | exhausted
  | failed
  | closed
deriving DecidableEq, Repr, Inhabited

structure DocumentIterator (γ : Type) where
  cursor : Option γ
  /-- The cursor as closing left it. -/
  released : Option γ
  context : Context
  state : IteratorState
  error : Option StoreError

namespace DocumentIterator

def ofCursor (cursor : γ) (context : Context) : DocumentIterator γ :=
  ⟨some cursor, none, context, .opened, none⟩

/-- An iterator without a cursor, over nothing. -/
def inert : DocumentIterator γ := ⟨none, none, .background, .exhausted, none⟩

def nextLocation : String := "docbridge::Iterator::next"

def closeLocation : String := "docbridge::Iterator::close"

variable [Cursor γ]

/-- Documents in the present batch. -/
def buffered (it : DocumentIterator γ) : Nat :=
  match it.cursor with
  | some cursor => Cursor.buffered cursor
  | none => 0

/-- Closes the cursor and gives it up. Says whether closing went well. -/
def release (alive : Except StoreError Unit) (it : DocumentIterator γ) :
    Except StoreError Unit × DocumentIterator γ :=
  match it.cursor with
  | none => (.ok (), it)
  | some cursor =>
    let (answer, cursor) := Cursor.close alive cursor
    (answer, { it with cursor := none, released := some cursor })

/-- Gives the cursor up, whether or not it closes well. -/
def discard (alive : Except StoreError Unit) (it : DocumentIterator γ) : DocumentIterator γ :=
  (it.release alive).2

def noCurrentDocument : StoreError := .decode "cursor has no current document"

/-- Moves the cursor and decodes what it stands on; `none` when it has run out. -/
def read [Decodable α] (alive : Except StoreError Unit) (cursor : γ) :
    Except StoreError (Option α) × γ :=
  match Cursor.advance alive cursor with
  | (.error e, cursor) => (.error e, cursor)
  | (.ok false, cursor) => (.ok none, cursor)
  | (.ok true, cursor) =>
    match Cursor.current cursor with
    | none => (.error noCurrentDocument, cursor)
    | some d =>
      match Decodable.decode d with
      | .ok v => (.ok (some v), cursor)
      | .error reason => (.error (.decode reason), cursor)

def readFailure (e : StoreError) : Failure :=
  let message := match e with
    | .decode _ => "unable to decode document"
    | _ => "unable to read from cursor"
  .ofStore nextLocation message e

def closedFailure : Failure := .ofStore nextLocation "iterator is closed" .cursorClosed

/-- Reads the next document. Gives `none` when there is no more, and after a failure has been
reported. -/
def tryNext [Decodable α] (alive : Except StoreError Unit) (it : DocumentIterator γ) :
    Except Failure (Option α) × DocumentIterator γ :=
  match it.state with
  | .exhausted | .failed => (.ok none, it)
  | .closed => (.error closedFailure, { it with error := some .cursorClosed })
  | .opened =>
    match it.cursor with
    | none => (.ok none, { it with state := .exhausted })
    | some cursor =>
      match read alive cursor with
      | (.ok (some v), cursor) => (.ok (some v), { it with cursor := some cursor })
      | (.ok none, cursor) =>
        (.ok none, { it with cursor := some cursor, state := .exhausted }.discard alive)
      | (.error e, cursor) =>
        (.error (readFailure e),
          { it with cursor := some cursor, state := .failed, error := some e }.discard alive)

/-- Reads the next document in place of `out`, which stays where there is none. -/
def next [Decodable α] (alive : Except StoreError Unit) (out : α) (it : DocumentIterator γ) :
    Bool × α × DocumentIterator γ :=
  match it.tryNext alive with
  | (.ok (some v), it) => (true, v, it)
  | (_, it) => (false, out, it)

def closeFailure (e : StoreError) : Failure :=
  .ofStore closeLocation "unable to close cursor" e

/-- Ends the reading for good. Closing again does nothing. -/
def close (alive : Except StoreError Unit) (it : DocumentIterator γ) :
    Except Failure Unit × DocumentIterator γ :=
  let (answer, it) := { it with state := .closed }.release alive
  (answer.mapError closeFailure, it)

/-- Reads all documents, unless one of them cannot be read. -/
def readAll [Decodable α] (alive : Except StoreError Unit) :
    Nat → DocumentIterator γ → Except Failure (List α)
  | 0, _ => .ok []
  | fuel + 1, it => do
    match it.tryNext alive with
    | (.error e, _) => .error e
    | (.ok none, _) => return []
    | (.ok (some v), it) => return v :: (← readAll alive fuel it)

end DocumentIterator

/-- A view of an iterator that ends with the first failure. -/
structure Documents (γ : Type) where
  iterator : DocumentIterator γ
  done : Bool := false

namespace Documents

variable [Cursor γ] [Decodable α]

def next (alive : Except StoreError Unit) (d : Documents γ) :
    Option (Except Failure α) × Documents γ :=
  if d.done then (none, d)
  else
    match d.iterator.tryNext alive with
    | (.ok (some v), it) => (some (.ok v), ⟨it, false⟩)
    | (.ok none, it) => (none, ⟨it, true⟩)
    | (.error e, it) => (some (.error e), ⟨it, true⟩)

/-- The next items, as many as are asked for and are there. -/
def take (alive : Except StoreError Unit) :
    Nat → Documents γ → List (Except Failure α) × Documents γ
  | 0, d => ([], d)
  | n + 1, d =>
    match d.next alive with
    | (none, d) => ([], d)
    | (some item, d) =>
      let (items, d) := take alive n d
      (item :: items, d)

end Documents

end DocStore
