import DocStore.Collection.Query
import DocStore.Collection.Save
/-!
Servers give out units of work, which give out collections, and run work inside transactions. Work
in a transaction commits only if it succeeds; the session that it runs in is ended in every case.
-/
namespace DocStore

structure Server where
  settings : CollectionSettings := {}
  transactionOptions : TransactionOptions := {}

/-- Work under one context, and possibly in one transaction. -/
structure UnitOfWork where
  context : Context
  session : Option SessionNumber
  settings : CollectionSettings

namespace UnitOfWork

def collection (w : UnitOfWork) (name : String) : Collection :=
  ⟨name, w.context, w.session, w.settings⟩

def isTransactional (w : UnitOfWork) : Bool := w.session.isSome

def closeLocation : String := "docbridge::Session::close"

/-- Disconnects the store, which others may be using. A failure is logged only. -/
def close : StateM Host Unit := do
  match ← Host.disconnect.run with
  | .ok () => pure ()
  | .error e =>
    let failure := Failure.ofStore closeLocation "error disconnecting from database" e
    modify fun s => { s with
      log := s.log ++ [{ level := .error, target := "docbridge::session", text := failure.diagnostic }] }

end UnitOfWork

/-- How a piece of work ends: with a value, with a failure, or by breaking off. -/
inductive Outcome (α : Type) where
  | returned (a : α)
  | failed (f : Failure)
  | unwound

namespace Server

/-- Options of the sessions that transactions run in. -/
def sessionOptions (server : Server) : SessionOptions :=
  { causalConsistency := true, transaction := server.transactionOptions }

def newSession (server : Server) (context : Context) : UnitOfWork :=
  ⟨context, none, server.settings⟩

def transactionLocation : String := "docbridge::Server::with_transaction"

/-- Aborts the transaction of a session; a failure is logged only. -/
def abandon (session : SessionNumber) : StateM Host Unit := do
  match ← (Host.abortTransaction session).run with
  | .ok () => pure ()
  | .error e =>
    let failure := Failure.ofStore transactionLocation "unable to abort transaction" e
    modify fun s => { s with
      log := s.log ++ [{ level := .warn, target := "docbridge::server", text := failure.diagnostic }] }

/-- Commits after work that succeeded, and aborts if that fails. -/
def conclude (session : SessionNumber) (value : α) : StateM Host (Outcome α) := do
  match ← (Host.commitTransaction session).run with
  | .ok () => return .returned value
  | .error e =>
    abandon session
    return .failed ((Failure.ofStore transactionLocation "unable to commit transaction" e).withDetail
      ("transient: " ++ if e.isTransient then "true" else "false"))

variable {m : Type → Type} [Monad m]

/-- Lets an operation on a host take part in work that has state of its own. -/
def onHost (action : StateM Host α) : StateT Host m α := fun s => pure (action.run s)

/-- Runs work in a transaction of its own. -/
def withTransaction (server : Server) (context : Context)
    (work : UnitOfWork → StateT Host m (Outcome α)) : StateT Host m (Outcome α) := do
  let options := server.sessionOptions
  match ← onHost (Host.startSession options).run with
  | .error e => return .failed (.ofStore transactionLocation "unable to start database session" e)
  | .ok session =>
    let outcome ← (do
      match ← onHost (Host.startTransaction session options.transaction).run with
      | .error e => return .failed (.ofStore transactionLocation "unable to start transaction" e)
      | .ok () =>
        match ← work ⟨context, some session, server.settings⟩ with
        | .returned value => onHost (conclude session value)
        | outcome =>
          onHost (abandon session)
          return outcome)
    modify (Host.endSession session)
    return outcome

end Server

end DocStore
