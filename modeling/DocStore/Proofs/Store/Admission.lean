import DocStore.Store.Calls
/-!
What every call of a store goes through before it may touch a document. Being admitted changes the
counts, the failures that are left and the time, and nothing else; a call that is refused has
changed no more than that. A command is an admission followed by one change of the store.
-/
namespace DocStore

/-- An action that succeeded has succeeded in each of its parts. -/
theorem exists_of_run_bind_eq_ok {x : ExceptT ε (StateM Host) α}
    {f : α → ExceptT ε (StateM Host) β} {s u : Host} {b : β}
    (h : (x >>= f).run.run s = (.ok b, u)) :
    ∃ a t, x.run.run s = (.ok a, t) ∧ (f a).run.run t = (.ok b, u) := by
  rw [ExceptT.run_bind, StateT.run_bind] at h
  rcases hx : x.run.run s with ⟨e | a, t⟩
  · rw [hx] at h
    cases h
  · rw [hx] at h
    exact ⟨a, t, rfl, h⟩

theorem Command.operation_ne_disconnect (command : Command) : command.operation ≠ .disconnect := by
  cases command <;> nofun

/-- Answer of an action, with the host after it. -/
def StoreAction.on (action : StoreAction α) (s : Host) : Except StoreError α × Host :=
  action.run.run s

namespace StoreAction

@[simp] theorem on_pure (a : α) (s : Host) : on (pure a) s = (.ok a, s) := rfl

theorem on_bind (x : StoreAction α) (f : α → StoreAction β) (s : Host) :
    on (x >>= f) s = match on x s with
      | (.ok a, t) => on (f a) t
      | (.error e, t) => (.error e, t) := by
  simp only [on, ExceptT.run_bind, StateT.run_bind]
  rcases StateT.run (ExceptT.run x) s with ⟨e | a, t⟩ <;> rfl

theorem on_get_bind (f : Host → StoreAction β) (s : Host) : on (get >>= f) s = on (f s) s := rfl

theorem on_modifyStore_bind (f : Store → Store) (g : Unit → StoreAction β) (s : Host) :
    on (Host.modifyStore f >>= g) s = on (g ()) { s with store := f s.store } := rfl

/-- An action that succeeded hands its answer and its host on to the next one. -/
theorem on_bind_of_ok {x : StoreAction α} {s t : Host} {a : α} (h : on x s = (.ok a, t))
    (f : α → StoreAction β) : on (x >>= f) s = on (f a) t := by
  rw [on_bind, h]

theorem on_bind_of_error {x : StoreAction α} {s t : Host} {e : StoreError}
    (h : on x s = (.error e, t)) (f : α → StoreAction β) : on (x >>= f) s = (.error e, t) := by
  rw [on_bind, h]

theorem exists_of_on_bind_eq_ok {x : StoreAction α} {f : α → StoreAction β} {s u : Host} {b : β}
    (h : on (x >>= f) s = (.ok b, u)) : ∃ a t, on x s = (.ok a, t) ∧ on (f a) t = (.ok b, u) :=
  exists_of_run_bind_eq_ok h

end StoreAction

namespace Host

open StoreAction

/-- The same host at another time, with other failures left. -/
def later (points : List FailPoint) (timeline : Timeline) (s : Host) : Host :=
  { s with
    store := { s.store with hooks := { s.store.hooks with failPoints := points } }
    timeline }

/-- Actions that use up failures and time, and change nothing else. -/
def Passing (x : StoreAction α) : Prop :=
  ∀ s : Host, ∃ answer points timeline, x.on s = (answer, s.later points timeline)

theorem passing_of_keeps {x : StoreAction α} (h : ∀ s : Host, ∃ answer, x.on s = (answer, s)) :
    Passing x := by
  intro s
  obtain ⟨answer, hx⟩ := h s
  exact ⟨answer, s.store.hooks.failPoints, s.timeline, hx⟩

theorem passing_throw (e : StoreError) : Passing (throw e : StoreAction α) :=
  passing_of_keeps fun _ => ⟨_, rfl⟩

theorem Passing.bind {x : StoreAction α} {f : α → StoreAction β} (hx : Passing x)
    (hf : ∀ a, Passing (f a)) : Passing (x >>= f) := by
  intro s
  obtain ⟨answer, points, timeline, hs⟩ := hx s
  cases answer with
  | error e => exact ⟨.error e, points, timeline, on_bind_of_error hs f⟩
  | ok a =>
    obtain ⟨answer, points', timeline', ht⟩ := hf a (s.later points timeline)
    exact ⟨answer, points', timeline', (on_bind_of_ok hs f).trans ht⟩

theorem checkContext_on (context : Context) (s : Host) :
    (checkContext context).on s = (context.check s.timeline, s) := by
  rw [checkContext, on_get_bind]
  rcases context.check s.timeline with e | u <;> rfl

/-- The time when the latency of the store is over. -/
def afterLatency (context : Context) (s : Host) (latency : Nat) : Timeline :=
  s.timeline.advance (match context.remaining s.timeline with
    | some left => min left latency
    | none => latency)

theorem awaitLatency_on (context : Context) (s : Host) :
    (awaitLatency context).on s = match s.store.hooks.latency with
      | none => (.ok (), s)
      | some latency => (context.check (s.afterLatency context latency),
          { s with timeline := s.afterLatency context latency }) := by
  rw [awaitLatency, on_get_bind]
  cases s.store.hooks.latency with
  | none => rfl
  | some latency => exact checkContext_on context { s with timeline := s.afterLatency context latency }

theorem tripFailPoint_on (operation : Operation) (s : Host) :
    (tripFailPoint operation).on s =
      match takeFailure operation s.store.hooks.failPoints with
      | some (e, rest) => (.error e, s.later rest s.timeline)
      | none => (.ok (), s) := by
  rw [tripFailPoint, on_get_bind]
  cases takeFailure operation s.store.hooks.failPoints <;> rfl

theorem tripFailPoint_on_nil (operation : Operation) {s : Host}
    (hpoints : s.store.hooks.failPoints = []) : (tripFailPoint operation).on s = (.ok (), s) := by
  rw [tripFailPoint_on, hpoints]
  rfl

theorem passing_checkContext (context : Context) : Passing (checkContext context) :=
  passing_of_keeps fun s => ⟨context.check s.timeline, checkContext_on context s⟩

theorem passing_awaitLatency (context : Context) : Passing (awaitLatency context) := by
  intro s
  rw [awaitLatency_on]
  cases s.store.hooks.latency with
  | none => exact ⟨_, s.store.hooks.failPoints, s.timeline, rfl⟩
  | some latency => exact ⟨_, s.store.hooks.failPoints, s.afterLatency context latency, rfl⟩

theorem passing_tripFailPoint (operation : Operation) : Passing (tripFailPoint operation) := by
  intro s
  rw [tripFailPoint_on]
  cases takeFailure operation s.store.hooks.failPoints with
  | none => exact ⟨.ok (), s.store.hooks.failPoints, s.timeline, rfl⟩
  | some found => exact ⟨.error found.1, found.2, s.timeline, rfl⟩

/-- A host on which one more call of a kind has been attempted. -/
def attempted (operation : Operation) (s : Host) : Host :=
  { s with store := { s.store with hooks := s.store.hooks.counted operation } }

section Connection

variable (context : Context) {operation : Operation} {s : Host}

theorem enter_on_of_disconnected (h : s.store.connected = false) (hoperation : operation ≠ .disconnect) :
    (enter (some context) operation).on s = (.error .disconnected, s.attempted operation) := by
  have hrefused : (decide (operation ≠ .disconnect) && !s.store.connected) = true := by
    simp [h, hoperation]
  rw [enter, on_modifyStore_bind, on_get_bind]
  change StoreAction.on (if (decide (operation ≠ .disconnect) && !s.store.connected) = true
    then _ else _) (s.attempted operation) = _
  rw [if_pos hrefused]
  rfl

theorem enter_on_of_connected (h : s.store.connected = true) :
    (enter (some context) operation).on s =
      on (do checkContext context; awaitLatency context; tripFailPoint operation)
        (s.attempted operation) := by
  have hconnected : ¬(decide (operation ≠ .disconnect) && !s.store.connected) = true := by
    simp [h]
  rw [enter, on_modifyStore_bind, on_get_bind]
  change StoreAction.on (if (decide (operation ≠ .disconnect) && !s.store.connected) = true
    then _ else _) (s.attempted operation) = _
  rw [if_neg hconnected]

end Connection

/-- Every call that enters is counted. Whatever the answer is, nothing else of the store changes
besides the failures that are left. -/
theorem enter_on (context : Option Context) (operation : Operation) (s : Host) :
    ∃ answer points timeline, (enter context operation).on s =
      (answer, (s.attempted operation).later points timeline) := by
  have hend := passing_tripFailPoint operation
  rw [enter, on_modifyStore_bind, on_get_bind]
  cases context with
  | none =>
    dsimp only
    split
    · exact ((passing_throw _).bind fun _ => hend) _
    · exact hend _
  | some context =>
    have hwait := (passing_checkContext context).bind fun _ =>
      (passing_awaitLatency context).bind fun _ => hend
    dsimp only
    split
    · exact ((passing_throw _).bind fun _ => hwait) _
    · exact hwait _

/-- What a command goes through before it is carried out: it enters, and its session is open. -/
def admission (context : Context) (session : Option SessionNumber) (operation : Operation) :
    StoreAction Unit := do
  enter (some context) operation
  if (← get).store.isEnded session then throw Store.sessionEnded

theorem admission_on (context : Context) (session : Option SessionNumber) (operation : Operation)
    (s : Host) : ∃ answer points timeline, (admission context session operation).on s =
      (answer, (s.attempted operation).later points timeline) := by
  obtain ⟨answer, points, timeline, henter⟩ := enter_on (some context) operation s
  cases answer with
  | error e => exact ⟨.error e, points, timeline, on_bind_of_error henter _⟩
  | ok u =>
    rw [admission, on_bind_of_ok henter, on_get_bind]
    split
    · exact ⟨.error Store.sessionEnded, points, timeline, rfl⟩
    · exact ⟨.ok (), points, timeline, rfl⟩

variable [Regex.Engine]

/-- What a command that was admitted does. -/
def carryOut (session : Option SessionNumber) (collection : String) (command : Command)
    (s : Host) : Except StoreError Reply × Host :=
  let docs := s.store.visibleTables session collection
  let outcome := command.run (s.store.database ++ "." ++ collection) s.store.freshIdentity docs
  let kept := (outcome.toOption.map Prod.snd).getD docs
  (outcome.map Prod.fst,
    if command.isWrite then { s with store := { s.store.write session collection kept with
      nextIdentity := s.store.nextIdentity + 1 } }
    else s)

/-- A command is an admission, and then one change of the store. -/
theorem issue_on (context : Context) (session : Option SessionNumber) (collection : String)
    (command : Command) (s : Host) :
    (issue context session collection command).on s =
      match (admission context session command.operation).on s with
      | (.ok _, t) => t.carryOut session collection command
      | (.error e, t) => (.error e, t) := by
  rw [issue, admission, on_bind, on_bind]
  rcases (enter (some context) command.operation).on s with ⟨e | u, t⟩
  · rfl
  · dsimp only
    rw [on_get_bind, on_get_bind]
    split
    · rfl
    · rw [on_pure, on_get_bind]
      simp only [carryOut]
      cases command.isWrite <;>
        cases command.run (t.store.database ++ "." ++ collection) t.store.freshIdentity
          (t.store.visibleTables session collection) <;> rfl

end Host

namespace Reply

/-! What is read from a reply; calls pass over replies of other kinds. -/

def inserted : Reply → Value
  | .identity id => id
  | _ => .null

def result : Reply → UpdateResult
  | .updated result => result
  | _ => {}

def count : Reply → Nat
  | .number n => n
  | _ => 0

def document : Reply → Option Document
  | .row d => d
  | _ => none

def found : Reply → List Document
  | .rows documents => documents
  | _ => []

end Reply

namespace Host

section Reading

variable (context : Context) (session : Option SessionNumber) (collection : String)
  (filter d : Document)
variable [Regex.Engine]

theorem insert_eq_issue : Host.insert context session collection d =
    issue context session collection (.insert d) >>= fun reply => pure reply.inserted := by
  refine congrArg _ (funext fun reply => ?_)
  cases reply <;> rfl

theorem replace_eq_issue : Host.replace context session collection filter d =
    issue context session collection (.replace filter d) >>= fun reply => pure reply.result := by
  refine congrArg _ (funext fun reply => ?_)
  cases reply <;> rfl

theorem update_eq_issue : Host.update context session collection filter d =
    issue context session collection (.update filter d) >>= fun reply => pure reply.result := by
  refine congrArg _ (funext fun reply => ?_)
  cases reply <;> rfl

theorem delete_eq_issue : Host.delete context session collection filter =
    issue context session collection (.delete filter) >>= fun reply => pure reply.count := by
  refine congrArg _ (funext fun reply => ?_)
  cases reply <;> rfl

theorem count_eq_issue : Host.count context session collection filter =
    issue context session collection (.count filter) >>= fun reply => pure reply.count := by
  refine congrArg _ (funext fun reply => ?_)
  cases reply <;> rfl

theorem findOne_eq_issue (options : Option FindOneOptions) :
    Host.findOne context session collection filter options =
      issue context session collection (.findOne filter (options.getD {})) >>=
        fun reply => pure reply.document := by
  refine congrArg _ (funext fun reply => ?_)
  cases reply <;> rfl

/-- A search gives its rows through a cursor, which fetches as many at a time as its store says. -/
theorem find_eq_issue (options : Option FindOptions) :
    Host.find context session collection filter options =
      issue context session collection (.find filter (options.getD {})) >>=
        fun reply => do return RowCursor.ofRows (← get).store.batchSize reply.found := by
  refine congrArg _ (funext fun reply => ?_)
  cases reply <;> rfl

end Reading

end Host

end DocStore
