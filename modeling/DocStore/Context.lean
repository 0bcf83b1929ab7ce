import DocStore.StoreError
/-!
Deadlines and cancellation. Contexts that are derived from one another share a scope, and cancelling
one of them cancels all. A derived context never outlives the one it comes from. Times are
nanoseconds since 1970.
-/
namespace DocStore

def nanosPerMilli : Nat := 1000000

def nanosPerSecond : Nat := 1000000000

/-- The time, and which of the scopes opened so far have been cancelled. -/
structure Timeline where
  now : Nat
  scopes : Nat := 1
  cancelled : List Nat := []

namespace Timeline

/-- A pause is over strictly after its time. -/
def advance (t : Timeline) (nanos : Nat) : Timeline := { t with now := t.now + nanos + 1 }

def millis (t : Timeline) : Nat := t.now / nanosPerMilli

end Timeline

structure Context where
  deadline : Option Nat
  scope : Nat
deriving DecidableEq, Repr, Inhabited

namespace Context

/-- A context without a deadline that nobody cancels. -/
def background : Context := ⟨none, 0⟩

/-- A context of its own scope. -/
def open_ (deadline : Option Nat) (t : Timeline) : Context × Timeline :=
  (⟨deadline, t.scopes⟩, { t with scopes := t.scopes + 1 })

def withTimeout (timeout : Nat) (t : Timeline) : Context × Timeline :=
  open_ (some (t.now + timeout)) t

/-- A context of the same scope that ends after the timeout, or earlier with this one. -/
def childWithTimeout (c : Context) (timeout : Nat) (t : Timeline) : Context :=
  let candidate := t.now + timeout
  { c with deadline := some ((c.deadline.map fun d => min d candidate).getD candidate) }

/-- A context under another one, or of its own scope, with a timeout or without. -/
def derive (parent : Option Context) (timeout : Option Nat) (t : Timeline) : Context × Timeline :=
  match parent, timeout with
  | some parent, some timeout => (parent.childWithTimeout timeout t, t)
  | some parent, none => (parent, t)
  | none, some timeout => withTimeout timeout t
  | none, none => open_ none t

def cancel (c : Context) (t : Timeline) : Timeline :=
  { t with cancelled := c.scope :: t.cancelled }

def isCancelled (c : Context) (t : Timeline) : Bool := t.cancelled.contains c.scope

def isExpired (c : Context) (t : Timeline) : Bool := c.deadline.any fun d => d ≤ t.now

def remaining (c : Context) (t : Timeline) : Option Nat := c.deadline.map fun d => d - t.now

/-- The time limit of a command issued now: what remains, but no less than a millisecond, since
zero would mean no limit. -/
def timeLimit (c : Context) (t : Timeline) : Option Nat :=
  (c.remaining t).map fun left => max left nanosPerMilli

/-- Whether work may go on; cancellation is found before expiry. -/
def check (c : Context) (t : Timeline) : Except StoreError Unit :=
  if c.isCancelled t then .error .cancelled
  else if c.isExpired t then .error .timeout
  else .ok ()

end Context

end DocStore
