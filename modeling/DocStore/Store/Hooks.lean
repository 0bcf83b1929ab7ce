import DocStore.StoreError
/-!
Hooks of a store: how often each kind of call was attempted, calls that are to fail, and how long
commands take. Failures set for one kind of call come in the order in which they were set, each as
many times as it was asked for.
-/
namespace DocStore

inductive Operation where
  | count
  | find
  | findOne
  | insert
  | replace
  | update
  | delete
  | startSession
  | startTransaction
  | commit
  | abort
  | disconnect
deriving DecidableEq, Repr, Inhabited

namespace Operation

/-- All kinds of calls, with their names. -/
def named : List (Operation × String) :=
  [(.count, "count"), (.find, "find"), (.findOne, "find_one"), (.insert, "insert"),
    (.replace, "replace"), (.update, "update"), (.delete, "delete"),
    (.startSession, "start_session"), (.startTransaction, "start_transaction"),
    (.commit, "commit"), (.abort, "abort"), (.disconnect, "disconnect")]

def ofName? (name : String) : Option Operation :=
  (named.find? fun (_, n) => n == name).map Prod.fst

end Operation

structure FailPoint where
  operation : Operation
  error : StoreError
  times : Nat

structure Hooks where
  counts : Operation → Nat := fun _ => 0
  failPoints : List FailPoint := []
  /-- How long a command waits, in nanoseconds. -/
  latency : Option Nat := none

namespace Hooks

def total (h : Hooks) : Nat := Operation.named.foldl (fun n (o, _) => n + h.counts o) 0

def counted (h : Hooks) (operation : Operation) : Hooks :=
  { h with counts := fun o => if o = operation then h.counts o + 1 else h.counts o }

def resetCounts (h : Hooks) : Hooks := { h with counts := fun _ => 0 }

def addFailPoint (h : Hooks) (point : FailPoint) : Hooks :=
  { h with failPoints := h.failPoints ++ [point] }

def clearFailPoints (h : Hooks) : Hooks := { h with failPoints := [] }

end Hooks

/-- The failure that the next call of a kind meets, and the failures that are left after it. -/
def takeFailure (operation : Operation) : List FailPoint → Option (StoreError × List FailPoint)
  | [] => none
  | p :: rest =>
    if p.operation = operation ∧ 0 < p.times then
      some (p.error, if p.times = 1 then rest else { p with times := p.times - 1 } :: rest)
    else (takeFailure operation rest).map fun (e, rest) => (e, p :: rest)

end DocStore
