import DocStore.Logging.SlowCall
/-!
Collections as a client sees them: a name, under one context, and possibly in one session with its
transaction. A collection holds no documents; its operations go to the store.
-/
namespace DocStore

/-- How an object that exists is saved: its document is replaced, or it is updated where it has not
been deleted. -/
inductive SaveStrategy where
  | replace
  | guardedUpdate
deriving DecidableEq, Repr, Inhabited

structure CollectionSettings where
  monitor : SlowCallMonitor := {}
  strategy : SaveStrategy := .replace
deriving DecidableEq, Repr, Inhabited

structure Collection where
  name : String
  context : Context
  session : Option SessionNumber
  settings : CollectionSettings

abbrev Action := ExceptT Failure (StateM Host)

namespace Collection

/-- Lets the monitor time a call, which takes some time at least. -/
def timed (c : Collection) (location : String) (filter : Option Document) (call : StateM Host α) :
    StateM Host α := do
  let started := c.settings.monitor.start (← get).timeline
  let answer ← call
  modify fun s => { s with timeline := s.timeline.advance 0 }
  modify fun s => (c.settings.monitor.finish location started c.name filter s).2
  return answer

/-- A timed call of the store, with its error reported as a failure. -/
def call (c : Collection) (location : String) (filter : Option Document) (action : StoreAction α)
    (failure : StoreError → Failure) : Action α :=
  ExceptT.mk do
    let answer ← c.timed location filter action.run
    return answer.mapError failure

end Collection

def filterDetail (filter : Document) : String := "filter: " ++ filter.text

end DocStore
