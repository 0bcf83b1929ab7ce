import DocStore.Store.Basic
/-!
Calls on a store other than commands on a collection: sessions, transactions and the connection.
A commit succeeds only if no write has been committed since the transaction started.
-/
namespace DocStore.Host

def startSession (options : SessionOptions) : StoreAction SessionNumber := do
  enter none .startSession
  let number := (← get).store.sessions.length
  modifyStore fun s => { s with
    sessions := s.sessions ++ [{ options }]
    lastSessionOptions := some options }
  return number

def alreadyInTransaction : StoreError := .transaction "transaction already in progress" false

def noTransaction : StoreError := .transaction "no transaction started" false

def writeConflict : StoreError := .transaction "write conflict during commit" true

def startTransaction (session : SessionNumber) (options : TransactionOptions) :
    StoreAction Unit := do
  enter none .startTransaction
  let store := (← get).store
  if (store.openTransaction? (some session)).isSome then throw alreadyInTransaction
  modifyStore fun s => s.modifySession session fun x =>
    { x with transaction := some ⟨s.version, s.tables, false, options⟩ }

def clearTransaction (session : SessionNumber) : StoreAction Unit :=
  modifyStore fun s => s.modifySession session fun x => { x with transaction := none }

/-- Puts the tables of a transaction in place of the committed ones. A transaction that wrote
nothing has nothing to put; after the call there is no transaction in any case. -/
def commitTransaction (session : SessionNumber) : StoreAction Unit := do
  enter none .commit
  match (← get).store.openTransaction? (some session) with
  | none => throw noTransaction
  | some transaction =>
    clearTransaction session
    if transaction.dirty then
      if (← get).store.version ≠ transaction.baseVersion then throw writeConflict
      modifyStore fun s => { s with tables := transaction.tables, version := s.version + 1 }

def abortTransaction (session : SessionNumber) : StoreAction Unit := do
  enter none .abort
  clearTransaction session

/-- Ends a session for good, and with it the transaction that is open on it. -/
def endSession (session : SessionNumber) (s : Host) : Host :=
  { s with store := s.store.modifySession session fun x =>
    { x with ended := true, transaction := none } }

def disconnect : StoreAction Unit := do
  enter none .disconnect
  modifyStore fun s => { s with connected := false }

end DocStore.Host

namespace DocStore.Host

variable [Regex.Engine]

def count (context : Context) (session : Option SessionNumber) (collection : String)
    (filter : Document) : StoreAction Nat := do
  match ← issue context session collection (.count filter) with
  | .number n => return n
  | _ => return 0

def find (context : Context) (session : Option SessionNumber) (collection : String)
    (filter : Document) (options : Option FindOptions) : StoreAction RowCursor := do
  match ← issue context session collection (.find filter (options.getD {})) with
  | .rows rows => return RowCursor.ofRows (← get).store.batchSize rows
  | _ => return RowCursor.ofRows (← get).store.batchSize []

def findOne (context : Context) (session : Option SessionNumber) (collection : String)
    (filter : Document) (options : Option FindOneOptions) : StoreAction (Option Document) := do
  match ← issue context session collection (.findOne filter (options.getD {})) with
  | .row d => return d
  | _ => return none

/-- Gives the identity of the inserted document. -/
def insert (context : Context) (session : Option SessionNumber) (collection : String)
    (d : Document) : StoreAction Value := do
  match ← issue context session collection (.insert d) with
  | .identity id => return id
  | _ => return .null

def replace (context : Context) (session : Option SessionNumber) (collection : String)
    (filter replacement : Document) : StoreAction UpdateResult := do
  match ← issue context session collection (.replace filter replacement) with
  | .updated result => return result
  | _ => return {}

def update (context : Context) (session : Option SessionNumber) (collection : String)
    (filter changes : Document) : StoreAction UpdateResult := do
  match ← issue context session collection (.update filter changes) with
  | .updated result => return result
  | _ => return {}

/-- Gives the number of deleted documents. -/
def delete (context : Context) (session : Option SessionNumber) (collection : String)
    (filter : Document) : StoreAction Nat := do
  match ← issue context session collection (.delete filter) with
  | .number n => return n
  | _ => return 0

end DocStore.Host
