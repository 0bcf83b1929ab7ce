import DocStore.Proofs.Store.Selection
/-!
How calls enter. A call is barred where the connection is lost, where its context has ended, and where
the context ends while the call waits. Only a call that is not barred meets the failures that are set.
What a call does once it has entered leaves counts and failures alone. A command may sleep on its way;
it is then made of two parts, and the second one looks at the context again.
-/
namespace DocStore.Host

open StoreAction

/-- Why a call ends before it is looked up whether it is to fail. -/
def barred? (context : Option Context) (operation : Operation) (s : Host) : Option StoreError :=
  if operation ≠ .disconnect && !s.store.connected then some .disconnected
  else
    match context.map fun context => (s.awaited context).1 with
    | some (.error e) => some e
    | _ => none

/-- The time when a call has entered, or has been barred. -/
def arrival (context : Option Context) (operation : Operation) (s : Host) : Timeline :=
  if operation ≠ .disconnect && !s.store.connected then s.timeline
  else (context.map fun context => (s.awaited context).2).getD s.timeline

/-- A call that is barred uses up no failure, and any other call uses up the first one of its kind. -/
theorem enter_on_eq (context : Option Context) (operation : Operation) (s : Host) :
    (enter context operation).on s =
      let after := fun points => (s.attempted operation).later points (s.arrival context operation)
      match s.barred? context operation with
      | some e => (.error e, after s.store.hooks.failPoints)
      | none =>
        match takeFailure operation s.store.hooks.failPoints with
        | some (e, rest) => (.error e, after rest)
        | none => (.ok (), after s.store.hooks.failPoints) := by
  rw [enter, on_modifyStore_bind, on_get_bind, barred?, arrival]
  change StoreAction.on (if (decide (operation ≠ .disconnect) && !s.store.connected) = true
    then _ else _) (s.attempted operation) = _
  by_cases hlost : (decide (operation ≠ .disconnect) && !s.store.connected) = true
  · simp only [if_pos hlost]
    rfl
  · simp only [if_neg hlost]
    cases context with
    | none =>
      rw [tripFailPoint_on]
      rfl
    | some context =>
      have hawaited : (s.attempted operation).awaited context = s.awaited context := rfl
      dsimp only
      rw [await_on, hawaited]
      simp only [Option.map_some, Option.getD_some]
      cases (s.awaited context).1 with
      | error e => rfl
      | ok u =>
        dsimp only
        rw [tripFailPoint_on]
        rfl

/-- The action enters before anything else. If it does not come in, it has failed; what it does after
that leaves the hooks alone. -/
def Enters (context : Option Context) (operation : Operation) (x : StoreAction α) : Prop :=
  ∀ s, match (enter context operation).on s with
    | (.error e, t) => x.on s = (.error e, t)
    | (.ok _, t) => (x.on s).2.store.hooks = t.store.hooks

section Enters

variable {context : Option Context} {operation : Operation}

theorem enters_enter_bind {f : Unit → StoreAction α}
    (hf : ∀ t, (on (f ()) t).2.store.hooks = t.store.hooks) :
    Enters context operation (enter context operation >>= f) := by
  intro s
  rcases henter : (enter context operation).on s with ⟨e | u, t⟩
  · exact on_bind_of_error henter f
  · dsimp only
    rw [on_bind_of_ok henter]
    exact hf t

theorem Enters.bind {x : StoreAction α} (hx : Enters context operation x) {f : α → StoreAction β}
    (hf : ∀ a t, (on (f a) t).2.store.hooks = t.store.hooks) :
    Enters context operation (x >>= f) := by
  intro s
  have hs := hx s
  rcases henter : (enter context operation).on s with ⟨e | u, t⟩ <;> rw [henter] at hs
  · exact on_bind_of_error hs f
  · dsimp only at hs ⊢
    rw [← hs, on_bind]
    rcases x.on s with ⟨e | a, v⟩
    · rfl
    · exact hf a v

/-- Each call is counted once, however it ends. -/
theorem Enters.counts {x : StoreAction α} (hx : Enters context operation x) (s : Host) :
    (x.on s).2.store.hooks.counts = (s.store.hooks.counted operation).counts := by
  have hs := hx s
  obtain ⟨answer, points, timeline, henter⟩ := enter_on context operation s
  rw [henter] at hs
  cases answer with
  | error e =>
    dsimp only at hs
    rw [hs]
    rfl
  | ok u =>
    dsimp only at hs
    rw [hs]
    rfl

end Enters

theorem settle_hooks (n : SessionNumber) (transaction : Transaction) (s : Host) :
    (settle n transaction s).2.store.hooks = s.store.hooks := by
  unfold settle
  split
  · split
    · rfl
    · rfl
  · rfl

section Calls

variable (n : SessionNumber)

theorem enters_startSession (options : SessionOptions) :
    Enters none .startSession (startSession options) :=
  enters_enter_bind fun _ => rfl

theorem enters_startTransaction (options : TransactionOptions) :
    Enters none .startTransaction (startTransaction n options) := by
  refine enters_enter_bind fun t => ?_
  rw [on_get_bind]
  dsimp only
  split
  · rfl
  · rfl

theorem enters_commitTransaction : Enters none .commit (commitTransaction n) := by
  intro s
  rw [commitTransaction_on]
  rcases (enter none .commit).on s with ⟨e | u, t⟩
  · rfl
  · dsimp only
    cases t.store.openTransaction? (some n) with
    | none => rfl
    | some transaction => exact settle_hooks n transaction t

theorem enters_abortTransaction : Enters none .abort (abortTransaction n) :=
  enters_enter_bind fun _ => rfl

theorem enters_disconnect : Enters none .disconnect disconnect := enters_enter_bind fun _ => rfl

end Calls

variable [Regex.Engine]

/-- A command that has entered is carried out, unless its session has ended. -/
theorem issue_on_enter (context : Context) (session : Option SessionNumber) (collection : String)
    (command : Command) (s : Host) :
    (issue context session collection command).on s =
      match (enter (some context) command.operation).on s with
      | (.error e, t) => (.error e, t)
      | (.ok _, t) =>
        if t.store.isEnded session then (.error Store.sessionEnded, t)
        else t.carryOut session collection command := by
  rw [issue_on, admission, on_bind]
  rcases (enter (some context) command.operation).on s with ⟨e | u, t⟩
  · rfl
  · dsimp only
    rw [on_get_bind]
    cases t.store.isEnded session <;> rfl

theorem carryOut_hooks (session : Option SessionNumber) (collection : String) (command : Command)
    (s : Host) : (s.carryOut session collection command).2.store.hooks = s.store.hooks := by
  cases hwrite : command.isWrite with
  | false => simp [carryOut, hwrite]
  | true => simp [carryOut, hwrite, Store.write_hooks]

theorem enters_issue (context : Context) (session : Option SessionNumber) (collection : String)
    (command : Command) :
    Enters (some context) command.operation (issue context session collection command) := by
  intro s
  rw [issue_on_enter]
  rcases (enter (some context) command.operation).on s with ⟨e | u, t⟩
  · rfl
  · dsimp only
    split
    · rfl
    · exact carryOut_hooks session collection command t

section Sleep

variable (context : Context)

/-- The first part of a command: it is counted, has a connection and a context that goes on, and sleeps
for the latency of the store, if there is any. -/
def depart (command : Command) : StoreAction Bool := do
  modifyStore fun s => { s with hooks := s.hooks.counted command.operation }
  if !(← get).store.connected then throw .disconnected
  checkContext context
  match (← get).store.hooks.latency with
  | none => return false
  | some latency =>
    modify fun s => { s with timeline := s.afterLatency context latency }
    return true

/-- What a call that has slept does before anything else. -/
def awake (slept : Bool) : StoreAction Unit := if slept then checkContext context else pure ()

/-- The second part of a command. One that has slept looks again whether its context goes on. -/
def resume (session : Option SessionNumber) (collection : String) (command : Command)
    (slept : Bool) : StoreAction Reply := do
  awake context slept
  tripFailPoint command.operation
  if (← get).store.isEnded session then throw Store.sessionEnded
  ExceptT.mk fun s => s.carryOut session collection command

omit [Regex.Engine] in
theorem depart_on (command : Command) (s : Host) :
    (depart context command).on s =
      let t := s.attempted command.operation
      if s.store.connected then
        match context.check s.timeline, s.store.hooks.latency with
        | .error e, _ => (.error e, t)
        | .ok _, none => (.ok false, t)
        | .ok _, some latency => (.ok true, { t with timeline := s.afterLatency context latency })
      else (.error .disconnected, t) := by
  rw [depart, on_modifyStore_bind, on_get_bind]
  change on (if (!s.store.connected) = true then _ else _) (s.attempted command.operation) = _
  cases s.store.connected with
  | false => rfl
  | true =>
    change on (checkContext context >>= _) (s.attempted command.operation) = _
    rw [on_bind, checkContext_on]
    change _ = match context.check (s.attempted command.operation).timeline, s.store.hooks.latency with
      | .error e, _ => _
      | .ok _, none => _
      | .ok _, some latency => _
    cases context.check (s.attempted command.operation).timeline with
    | error e => rfl
    | ok u =>
      dsimp only
      rw [on_get_bind]
      change on (match s.store.hooks.latency with | none => _ | some _ => _) _ = _
      cases s.store.hooks.latency <;> rfl

omit [Regex.Engine] in
theorem enter_on_depart (command : Command) (s : Host) :
    (enter (some context) command.operation).on s =
      match (depart context command).on s with
      | (.error e, t) => (.error e, t)
      | (.ok slept, t) =>
        on (awake context slept >>= fun _ => tripFailPoint command.operation) t := by
  rw [depart_on]
  cases hconnected : s.store.connected with
  | false =>
    rw [enter_on_of_disconnected context hconnected command.operation_ne_disconnect]
    rfl
  | true =>
    have htime : (s.attempted command.operation).timeline = s.timeline := rfl
    rw [enter_on_of_connected context hconnected, on_bind, checkContext_on, htime]
    cases context.check s.timeline with
    | error e => rfl
    | ok u =>
      have hlatency : (s.attempted command.operation).store.hooks.latency =
        s.store.hooks.latency := rfl
      dsimp only
      rw [on_bind, awaitLatency_on, hlatency]
      cases s.store.hooks.latency with
      | none => rfl
      | some latency =>
        simp only [if_true, on_bind, awake, checkContext_on]
        rfl

/-- Where nothing comes between them, the two parts are the command. -/
theorem issue_on_depart (session : Option SessionNumber) (collection : String) (command : Command)
    (s : Host) : (issue context session collection command).on s =
      match (depart context command).on s with
      | (.error e, t) => (.error e, t)
      | (.ok slept, t) => (resume context session collection command slept).on t := by
  rw [issue_on_enter, enter_on_depart]
  rcases (depart context command).on s with ⟨e | slept, t⟩
  · rfl
  · dsimp only
    rw [resume, on_bind, on_bind]
    rcases (awake context slept).on t with ⟨e | u, v⟩
    · rfl
    · dsimp only
      rw [on_bind]
      rcases (tripFailPoint command.operation).on v with ⟨e | u, w⟩
      · rfl
      · dsimp only
        rw [on_get_bind]
        cases w.store.isEnded session <;> rfl

end Sleep

end DocStore.Host
