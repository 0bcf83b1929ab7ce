import DocStore.Store.Command
import DocStore.Store.Cursor
import DocStore.Store.Session
import DocStore.Context
import DocStore.Logging.Record
/-!
A store in memory: committed tables with a version that every write raises, the sessions started so
far, and the hooks. A host is a store with the time in which it is used, the log and the counts of
timed calls. Operations on a host either fail with an error of the store or give an answer, and
change the host in both cases.
-/
namespace DocStore

/-- How many documents a cursor fetches at a time. -/
def defaultBatchSize : Nat := 101

structure Store where
  database : String
  batchSize : Nat := defaultBatchSize
  tables : Tables := Tables.empty
  version : Nat := 0
  sessions : List Session := []
  connected : Bool := true
  hooks : Hooks := {}
  lastSessionOptions : Option SessionOptions := none
  /-- The number that the next generated identity will have. -/
  nextIdentity : Nat := 0

/-- Counts of calls that were timed, and of those that were slow. -/
structure CallCounts where
  timed : Nat := 0
  slow : Nat := 0
deriving DecidableEq, Repr, Inhabited

structure Host where
  store : Store
  timeline : Timeline
  calls : CallCounts := {}
  log : List LogRecord := []

/-- Sessions are known by their numbers. -/
abbrev SessionNumber := Nat

abbrev StoreAction := ExceptT StoreError (StateM Host)

namespace Store

def modifySession (s : Store) (n : SessionNumber) (f : Session → Session) : Store :=
  { s with sessions := s.sessions.modify n f }

/-- The transaction that a call made in a session belongs to. -/
def openTransaction? (s : Store) (session : Option SessionNumber) : Option Transaction := do
  (← s.sessions[← session]?).transaction

/-- The tables that a call made in a session sees. -/
def visibleTables (s : Store) (session : Option SessionNumber) : Tables :=
  match s.openTransaction? session with
  | some transaction => transaction.tables
  | none => s.tables

/-- Puts documents where a call made in a session writes them. A transaction notes that it has
written; outside of one the version rises. -/
def write (s : Store) (session : Option SessionNumber) (collection : String)
    (docs : List Document) : Store :=
  match session, s.openTransaction? session with
  | some n, some transaction =>
    s.modifySession n fun session => { session with transaction := some { transaction with
      tables := transaction.tables.set collection docs, dirty := true } }
  | _, _ => { s with tables := s.tables.set collection docs, version := s.version + 1 }

def isEnded (s : Store) (session : Option SessionNumber) : Bool :=
  match session with
  | some n => s.sessions[n]?.any Session.ended
  | none => false

def freshIdentity (s : Store) : ObjectId := ⟨BitVec.ofNat 96 s.nextIdentity⟩

/-- Adds committed documents past the hooks. -/
def seed (s : Store) (collection : String) (docs : List Document) : Store :=
  { s with tables := s.tables.set collection (s.tables collection ++ docs),
           version := s.version + 1 }

def sessionEnded : StoreError := .transaction "session has already ended" false

end Store

namespace Host

def modifyStore (f : Store → Store) : StoreAction Unit :=
  modify fun s => { s with store := f s.store }

def checkContext (context : Context) : StoreAction Unit := do
  context.check (← get).timeline

/-- Waits for the latency of the store, but no longer than the context goes on. -/
def awaitLatency (context : Context) : StoreAction Unit := do
  match (← get).store.hooks.latency with
  | none => pure ()
  | some latency =>
    modify fun s =>
      let wait := match context.remaining s.timeline with
        | some left => min left latency
        | none => latency
      { s with timeline := s.timeline.advance wait }
    checkContext context

/-- Meets the failure that is set for this kind of call, if any. -/
def tripFailPoint (operation : Operation) : StoreAction Unit := do
  match takeFailure operation (← get).store.hooks.failPoints with
  | none => pure ()
  | some (error, rest) =>
    modifyStore fun s => { s with hooks := { s.hooks with failPoints := rest } }
    throw error

/-- What every call goes through first: it is counted, then it needs a connection, a context that
goes on before and after the latency, and no failure set for it. -/
def enter (context : Option Context) (operation : Operation) : StoreAction Unit := do
  modifyStore fun s => { s with hooks := s.hooks.counted operation }
  if operation ≠ .disconnect && !(← get).store.connected then throw .disconnected
  match context with
  | none => pure ()
  | some context =>
    checkContext context
    awaitLatency context
  tripFailPoint operation

variable [Regex.Engine]

/-- Issues a command on a collection, in a session or outside of any. A command that is refused
leaves all documents as they were, but a refused write still counts as one. -/
def issue (context : Context) (session : Option SessionNumber) (collection : String)
    (command : Command) : StoreAction Reply := do
  enter (some context) command.operation
  if (← get).store.isEnded session then throw Store.sessionEnded
  let store := (← get).store
  let docs := store.visibleTables session collection
  let outcome := command.run (store.database ++ "." ++ collection) store.freshIdentity docs
  if command.isWrite then
    let after := match outcome with
      | .ok (_, docs) => docs
      | .error _ => docs
    modifyStore fun s => { s.write session collection after with
      nextIdentity := s.nextIdentity + 1 }
  let (reply, _) ← outcome
  return reply

end Host

end DocStore
