import DocStore.Proofs.Store.Entrance
import DocStore.Proofs.Store.Snapshot
import DocStore.Server
/-!
The phases of a transaction: a session is started, a transaction is begun in it, the work is done,
and what is left is to commit or to abort, and to end the session. Until it is committed, nothing of
a transaction can be noticed outside of its session.
-/
namespace DocStore

namespace Host

open StoreAction

/-- The session may have another transaction than before, or none. All else that commands read and
write is the same. -/
structure SameOutside (n : SessionNumber) (s t : Host) : Prop where
  ledger : t.store.ledger.without n = s.store.ledger.without n
  database : t.store.database = s.store.database
  sessions : s.store.sessions.length ≤ t.store.sessions.length

theorem SameOutside.trans {n : SessionNumber} {s t u : Host} (h : s.SameOutside n t)
    (h' : t.SameOutside n u) : s.SameOutside n u :=
  ⟨h'.ledger.trans h.ledger, h'.database.trans h.database, Nat.le_trans h.sessions h'.sessions⟩

/-- A session that is started has the next number and no transaction. -/
theorem startSession_ok {options : SessionOptions} {n : SessionNumber} {s t : Host}
    (h : (startSession options).on s = (.ok n, t)) :
    n = s.store.sessions.length ∧ n < t.store.sessions.length := by
  obtain ⟨answer, points, timeline, henter⟩ := enter_on none .startSession s
  cases answer with
  | error e =>
    rw [startSession, on_bind_of_error henter] at h
    cases h
  | ok u =>
    rw [startSession, on_bind_of_ok henter, on_get_bind, on_modifyStore_bind, on_pure] at h
    cases h
    exact ⟨rfl, by simp [later, attempted]⟩

theorem endSession_isEnded {n : SessionNumber} {s : Host} (h : n < s.store.sessions.length) :
    (endSession n s).store.isEnded (some n) = true := by
  simp only [endSession, Store.isEnded, Store.modifySession, List.getElem?_modify_eq,
    List.getElem?_eq_getElem h]
  rfl

def counts (s : Host) : Operation → Nat := s.store.hooks.counts

theorem startSession_counts (options : SessionOptions) (s : Host) :
    ((startSession options).on s).2.counts = (s.store.hooks.counted .startSession).counts :=
  (enters_startSession options).counts s

theorem startTransaction_counts (n : SessionNumber) (options : TransactionOptions) (s : Host) :
    ((startTransaction n options).on s).2.counts =
      (s.store.hooks.counted .startTransaction).counts :=
  (enters_startTransaction n options).counts s

theorem commitTransaction_counts (n : SessionNumber) (s : Host) :
    ((commitTransaction n).on s).2.counts = (s.store.hooks.counted .commit).counts :=
  (enters_commitTransaction n).counts s

theorem abortTransaction_counts (n : SessionNumber) (s : Host) :
    ((abortTransaction n).on s).2.counts = (s.store.hooks.counted .abort).counts :=
  (enters_abortTransaction n).counts s

variable [Regex.Engine]

/-- Events that change no more than the transaction of a session. -/
theorem Moves.sameOutside {n : SessionNumber} {s t : Host} {e : Event} (h : s.Moves e t)
    (he : ∀ l : Ledger, (l.after s.store.database e).without n = l.without n) :
    s.SameOutside n t := by
  refine ⟨?_, h.database, h.sessions⟩
  rw [h.ledger, he]

theorem startTransaction_ok {n : SessionNumber} {options : TransactionOptions} {s t : Host}
    (h : (startTransaction n options).on s = (.ok (), t)) (hn : n < s.store.sessions.length) :
    s.Moves (.began n options) t := by
  have hmoves := startTransaction_moves n options s
  simpa only [Call.run, h, if_pos hn] using hmoves

theorem startTransaction_error {n : SessionNumber} {options : TransactionOptions} {s t : Host}
    {e : StoreError} (h : (startTransaction n options).on s = (.error e, t)) : s.Moves .idle t := by
  have hmoves := startTransaction_moves n options s
  simpa only [Call.run, h] using hmoves

theorem commitTransaction_ok {n : SessionNumber} {s t : Host}
    (h : (commitTransaction n).on s = (.ok (), t)) : s.Moves (.committed n) t := by
  have hmoves := commit_moves n s
  simpa only [Call.run, h] using hmoves

theorem commitTransaction_error {n : SessionNumber} {s t : Host} {e : StoreError}
    (h : (commitTransaction n).on s = (.error e, t)) : s.SameOutside n t := by
  have hmoves := commit_moves n s
  simp only [Call.run, h] at hmoves
  split at hmoves
  · exact hmoves.sameOutside fun l => l.without_without n
  · exact hmoves.sameOutside fun l => rfl

theorem abortTransaction_sameOutside (n : SessionNumber) (s : Host) :
    s.SameOutside n ((abortTransaction n).on s).2 := by
  have hmoves := abort_moves n s
  simp only [Call.run] at hmoves
  rcases habort : (abortTransaction n).on s with ⟨e | u, t⟩
  · rw [habort] at hmoves
    exact hmoves.sameOutside fun l => rfl
  · rw [habort] at hmoves
    exact hmoves.sameOutside fun l => l.without_without n

theorem endSession_ledger (n : SessionNumber) (s : Host) :
    (endSession n s).store.ledger = s.store.ledger.without n :=
  (endSession_moves n s).ledger

theorem endSession_openTransaction? (n : SessionNumber) (s : Host) :
    (endSession n s).store.openTransaction? (some n) = none := by
  change (endSession n s).store.ledger.transactions n = none
  rw [endSession_ledger]
  exact Ledger.setTransaction_self none

/-! Each call is counted once, however it ends. -/

end Host

namespace Server

/-- Asking a host for the answer of an action, and going on with it. -/
theorem run_attempt_bind (action : StoreAction α) (f : Except StoreError α → StateM Host β)
    (s : Host) :
    StateT.run (action.run >>= f) s = (f (action.on s).1).run (action.on s).2 := rfl

/-- Abandoning a transaction is aborting it; only the log may say more. -/
theorem abandon_run (n : SessionNumber) (s : Host) :
    ∃ log, ((abandon n).run s).2 = { ((Host.abortTransaction n).on s).2 with log } := by
  rw [abandon, run_attempt_bind]
  rcases (Host.abortTransaction n).on s with ⟨e | u, t⟩
  · exact ⟨_, rfl⟩
  · exact ⟨t.log, rfl⟩

theorem abandon_counts (n : SessionNumber) (s : Host) :
    ((abandon n).run s).2.counts = (s.store.hooks.counted .abort).counts := by
  obtain ⟨log, hlog⟩ := abandon_run n s
  rw [hlog]
  exact Host.abortTransaction_counts n s

def commitFailure (e : StoreError) : Failure :=
  (Failure.ofStore transactionLocation "unable to commit transaction" e).withDetail
    ("transient: " ++ if e.isTransient then "true" else "false")

theorem conclude_run (n : SessionNumber) (value : β) (s : Host) :
    (conclude n value).run s = match (Host.commitTransaction n).on s with
      | (.ok _, t) => (.returned value, t)
      | (.error e, t) => (.failed (commitFailure e), ((abandon n).run t).2) := by
  rw [conclude, run_attempt_bind]
  rcases (Host.commitTransaction n).on s with ⟨e | u, t⟩
  · rfl
  · rfl

variable [Regex.Engine]

theorem abandon_sameOutside (n : SessionNumber) (s : Host) :
    s.SameOutside n ((abandon n).run s).2 := by
  obtain ⟨log, hlog⟩ := abandon_run n s
  have hsame := Host.abortTransaction_sameOutside n s
  rw [hlog]
  exact ⟨hsame.ledger, hsame.database, hsame.sessions⟩

/-- What is done once the work is over. -/
def finish (n : SessionNumber) (outcome : Outcome β) (s : Host) : Outcome β × Host :=
  let (outcome, t) := match outcome with
    | .returned value => (conclude n value).run s
    | outcome => (outcome, ((abandon n).run s).2)
  (outcome, Host.endSession n t)

variable {m : Type → Type} [Monad m] [LawfulMonad m]

omit [Regex.Engine] in
theorem run_onHost_bind (action : StateM Host α) (f : α → StateT Host m β) (s : Host) :
    StateT.run (onHost action >>= f) s = (f (action.run s).1).run (action.run s).2 := by
  rw [StateT.run_bind]
  exact pure_bind (action.run s) _

omit [Regex.Engine] in
theorem run_bind_modify (x : StateT Host m α) (g : Host → Host) (s : Host) :
    StateT.run (do
      let a ← x
      modify g
      return a) s = x.run s >>= fun r => pure (r.1, g r.2) := by
  rw [StateT.run_bind]
  apply bind_congr
  intro r
  exact pure_bind (PUnit.unit, g r.2) _

omit [Regex.Engine] in
/-- Work runs only after its session and its transaction have been started. -/
theorem withTransaction_run (server : Server)
    (context : Context) (work : UnitOfWork → StateT Host m (Outcome β)) (s : Host) :
    (server.withTransaction context work).run s =
      match (Host.startSession server.sessionOptions).on s with
      | (.error e, t) =>
        pure (.failed (.ofStore transactionLocation "unable to start database session" e), t)
      | (.ok n, t) =>
        match (Host.startTransaction n server.transactionOptions).on t with
        | (.error e, u) =>
          pure (.failed (.ofStore transactionLocation "unable to start transaction" e),
            Host.endSession n u)
        | (.ok _, u) =>
          (work ⟨context, some n, server.settings⟩).run u >>= fun r => pure (finish n r.1 r.2) := by
  have hoptions : server.sessionOptions.transaction = server.transactionOptions := rfl
  rw [withTransaction, run_onHost_bind, ← StoreAction.on]
  rcases (Host.startSession server.sessionOptions).on s with ⟨e | n, t⟩
  · rfl
  · dsimp only
    rw [run_bind_modify, run_onHost_bind, ← StoreAction.on, hoptions]
    rcases (Host.startTransaction n server.transactionOptions).on t with ⟨e | u, v⟩
    · exact pure_bind _ _
    · dsimp only
      rw [StateT.run_bind, bind_assoc]
      apply bind_congr
      rintro ⟨outcome, w⟩
      cases outcome with
      | returned value => exact pure_bind _ _
      | failed f =>
        dsimp only
        rw [run_onHost_bind]
        exact pure_bind _ _
      | unwound =>
        dsimp only
        rw [run_onHost_bind]
        exact pure_bind _ _

end Server

end DocStore
