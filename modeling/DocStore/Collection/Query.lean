import DocStore.Collection.Basic
import DocStore.Store.Calls
import DocStore.Iterator
import DocStore.Expression.Compile
import DocStore.Query.Option
/-!
Operations of a collection that are given an expression: counting, reading all matching documents
or the first one, iterating over them, and removing them for good.
-/
namespace DocStore.Collection

/-- Whether the context of the collection goes on. -/
def alive (c : Collection) : StateM Host (Except StoreError Unit) := do
  return c.context.check (← get).timeline

def countLocation : String := "docbridge::Collection::count"

variable [Regex.Engine]

def count (c : Collection) (criteria : Expression) : Action Nat :=
  let filter := criteria.toFilter
  c.call countLocation (some filter) (Host.count c.context c.session c.name filter) fun e =>
    (Failure.ofStore countLocation "unable to count documents" e).withDetail (filterDetail filter)

def queryLocation : String := "docbridge::Collection::query"

/-- The search and the reading of its result are timed together. -/
def query [Decodable α] (c : Collection) (criteria : Expression) (options : List QueryOption) :
    Action (List α) :=
  let filter := criteria.toFilter
  let details := ["target: " ++ Decodable.target α, filterDetail filter,
    QueryOption.describe options]
  ExceptT.mk (c.timed queryLocation (some filter) do
    match ← Host.find c.context c.session c.name filter (QueryOption.toFindOptions options) with
    | .error e =>
      return .error ((Failure.ofStore queryLocation "unable to execute query" e).withDetails details)
    | .ok cursor =>
      let rows : Except Failure (List α) := (DocumentIterator.ofCursor cursor c.context).readAll
        (← c.alive) (cursor.remaining + 1)
      return rows.mapError fun inner =>
        (inner.wrap queryLocation "unable to read query results").withDetails details)

def iterateLocation : String := "docbridge::Collection::iterate"

def iterate (c : Collection) (criteria : Expression) (options : List QueryOption) :
    Action (DocumentIterator RowCursor) := do
  let filter := criteria.toFilter
  let cursor ← c.call iterateLocation (some filter)
    (Host.find c.context c.session c.name filter (QueryOption.toFindOptions options)) fun e =>
      (Failure.ofStore iterateLocation "unable to start query" e).withDetails
        [filterDetail filter, QueryOption.describe options]
  return .ofCursor cursor c.context

def loadLocation : String := "docbridge::Collection::load"

/-- The first matching document. Order and number of rows play no part. -/
def load [Decodable α] (c : Collection) (criteria : Expression) (options : List QueryOption) :
    Action α := do
  let filter := criteria.toFilter
  let found ← c.call loadLocation (some filter)
    (Host.findOne c.context c.session c.name filter (QueryOption.toFindOneOptions options))
    fun e => (Failure.ofStore loadLocation "unable to load document" e).withDetail
      (filterDetail filter)
  match found with
  | none => throw ((Failure.notFound loadLocation "document not found").withDetail
      (filterDetail filter))
  | some d =>
    match Decodable.decode d with
    | .ok v => return v
    | .error reason =>
      throw (((Failure.internal loadLocation "unable to decode document").withDetails
        ["target: " ++ Decodable.target α, filterDetail filter]).withCause (.external reason))

def hardDeleteLocation : String := "docbridge::Collection::hard_delete"

/-- Removes every matching document, and gives their number. -/
def hardDelete (c : Collection) (criteria : Expression) : Action Nat :=
  let filter := criteria.toFilter
  c.call hardDeleteLocation (some filter) (Host.delete c.context c.session c.name filter) fun e =>
    (Failure.ofStore hardDeleteLocation "unable to delete documents" e).withDetail
      (filterDetail filter)

end DocStore.Collection
