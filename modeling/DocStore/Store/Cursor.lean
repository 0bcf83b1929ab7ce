import DocStore.StoreError
import DocStore.Value.Basic
/-!
Cursors hand out the documents of a result one by one and fetch them in batches. What a reader
needs of a cursor is a class of its own; the cursor of the store is one instance.
-/
namespace DocStore

/-- A stream of documents. Calls are told whether the context that they are made in goes on. -/
class Cursor (γ : Type) where
  /-- Moves to the next document, and says whether there is one. -/
  advance : Except StoreError Unit → γ → Except StoreError Bool × γ
  current : γ → Option Document
  /-- How many documents of the present batch have not been handed out. -/
  buffered : γ → Nat
  close : Except StoreError Unit → γ → Except StoreError Unit × γ

/-- A cursor over the rows of a finished search. -/
structure RowCursor where
  pending : List Document
  current : Option Document := none
  batchSize : Nat
  inBatch : Nat
  closed : Bool := false

namespace RowCursor

def ofRows (batchSize : Nat) (rows : List Document) : RowCursor :=
  let batchSize := max batchSize 1
  { pending := rows, batchSize, inBatch := min batchSize rows.length }

/-- Documents that have not been handed out, in all batches. -/
def remaining (c : RowCursor) : Nat := c.pending.length

/-- Fetching a batch takes a call of its own, which needs a context that goes on. -/
def fetch (alive : Except StoreError Unit) (c : RowCursor) : Except StoreError RowCursor := do
  if c.inBatch = 0 then
    alive
    return { c with inBatch := min c.batchSize c.pending.length }
  else return c

def advance (alive : Except StoreError Unit) (c : RowCursor) :
    Except StoreError Bool × RowCursor :=
  if c.closed then (.error .cursorClosed, c)
  else
    match c.fetch alive with
    | .error e => (.error e, c)
    | .ok c =>
      match c.pending with
      | [] => (.ok false, { c with current := none })
      | d :: rest => (.ok true, { c with pending := rest, current := some d, inBatch := c.inBatch - 1 })

def close (c : RowCursor) : RowCursor :=
  { c with pending := [], current := none, inBatch := 0, closed := true }

instance : Cursor RowCursor where
  advance := advance
  current := RowCursor.current
  buffered := RowCursor.inBatch
  close _ c := (.ok (), c.close)

end RowCursor

end DocStore
