import DocStore.Proofs.Collection.Reporting
import DocStore.Proofs.Transaction.Atomicity
import DocStore.Proofs.Transaction.ClosedSessions
import DocStore.Regex.Default
/-!
What outlives a session. Once a session has ended, by itself or with the transaction that it was
started for, every operation of a collection that is still in it fails, at any later time.
-/
namespace DocStore

section

open PersistentObject (isNew)

/-- An action of a client that fails. -/
def Action.Fails (x : Action α) (s : Host) : Prop := ∃ f, (x.on s).1 = .error f

namespace Action

variable {x : Action α} {s : Host}

theorem Fails.bind (h : x.Fails s) (f : α → Action β) : (x >>= f).Fails s := by
  obtain ⟨failure, hx⟩ := h
  refine ⟨failure, ?_⟩
  rw [on_bind]
  rcases hanswer : x.on s with ⟨answer, t⟩
  rw [hanswer] at hx
  cases hx
  rfl

/-- An action that goes on as it was fails with what comes after it, if not by itself. -/
theorem fails_bind_of_keeps (hx : ∃ answer, x.on s = (answer, s)) {f : α → Action β}
    (hf : ∀ a, (f a).Fails s) : (x >>= f).Fails s := by
  obtain ⟨answer, hanswer⟩ := hx
  cases answer with
  | error e => exact Fails.bind ⟨e, congrArg Prod.fst hanswer⟩ f
  | ok a =>
    obtain ⟨failure, hf⟩ := hf a
    refine ⟨failure, ?_⟩
    rw [on_bind_of_ok hanswer]
    exact hf

end Action

theorem Tells.fails {kind : FailureKind} {e : StoreError} {x : Action α} {s : Host}
    (h : Tells kind e (x.on s).1) : x.Fails s := by
  obtain ⟨f, hf, -⟩ := h
  exact ⟨f, hf⟩

variable [Regex.Engine]

namespace Collection

open DocStore.Action

variable {c : Collection} {s : Host}

/-- Every operation of the collection fails. -/
structure Refused (c : Collection) (s : Host) : Prop where
  count : ∀ criteria : Expression, (c.count criteria).Fails s
  hardDelete : ∀ criteria : Expression, (c.hardDelete criteria).Fails s
  iterate : ∀ (criteria : Expression) (options : List QueryOption),
    (c.iterate criteria options).Fails s
  load : ∀ {α : Type} [Decodable α] (criteria : Expression) (options : List QueryOption),
    (c.load (α := α) criteria options).Fails s
  query : ∀ {α : Type} [Decodable α] (criteria : Expression) (options : List QueryOption),
    (c.query (α := α) criteria options).Fails s
  save : ∀ {α : Type} [PersistentObject α] [LawfulObject α] (object : α) (note : String),
    ∃ f, ((c.save object note).run s).1.1 = .error f
  delete : ∀ {α : Type} [PersistentObject α] [LawfulObject α] (object : α) (note : String),
    ∃ f, ((c.delete object note).run s).1.1 = .error f

section Ended

variable (h : s.store.isEnded c.session = true)
include h

theorem error_of_ended (command : Command) (read : Reply → StoreAction β) :
    ∃ e, ((Host.issue c.context c.session c.name command >>= read).on s).1 = .error e := by
  obtain ⟨e, hrefused, -⟩ := Host.issue_of_ended h c.context c.name command
  have hissue : ((Host.issue c.context c.session c.name command).on s).1 = .error e :=
    hrefused s.store.tables s.store.version
  refine ⟨e, ?_⟩
  rw [StoreAction.on_bind_of_error (Prod.ext hissue rfl)]

theorem fails_call {action : StoreAction β} {command : Command} {read : Reply → StoreAction β}
    (haction : action = Host.issue c.context c.session c.name command >>= read) (location : String)
    (filter : Option Document) (failure : StoreError → Failure) :
    (c.call location filter action failure).Fails s := by
  obtain ⟨e, herror⟩ := error_of_ended h command read
  obtain ⟨t, hcall, -⟩ := c.call_on location filter action failure s
  refine ⟨failure e, ?_⟩
  rw [hcall, haction, herror]
  rfl

theorem fails_query {α : Type} [Decodable α] (criteria : Expression) (options : List QueryOption) :
    (c.query (α := α) criteria options).Fails s := by
  obtain ⟨e, herror⟩ := error_of_ended h
    (.find criteria.toFilter ((QueryOption.toFindOptions options).getD {}))
    fun reply => do return RowCursor.ofRows (← get).store.batchSize reply.found
  rw [← Host.find_eq_issue] at herror
  rw [query_eq_queryFrom]
  exact (tells_queryFrom_search _ herror).fails

section Objects

variable {α : Type} [PersistentObject α]

theorem fails_insertObject (object : α) : (c.insertObject object).Fails s := by
  refine fails_bind_of_keeps ?_ fun d =>
    (fails_call h (Host.insert_eq_issue _ _ _ _) _ _ _).bind _
  unfold encodeObject
  split <;> exact ⟨_, rfl⟩

theorem fails_overwrite (object : α) : (c.overwrite object).Fails s := by
  refine fails_bind_of_keeps ?_ fun id => fails_bind_of_keeps ?_ fun d => ?_
  · unfold existingId
    split <;> exact ⟨_, rfl⟩
  · unfold encodeObject
    split <;> exact ⟨_, rfl⟩
  · split
    · exact (fails_call h (Host.replace_eq_issue _ _ _ _ _) _ _ _).bind _
    · exact (fails_call h (Host.update_eq_issue _ _ _ _ _) _ _ _).bind _

variable [LawfulObject α]

theorem fails_save (object : α) (note : String) :
    ∃ f, ((c.save object note).run s).1.1 = .error f := by
  have hput : (c.put (isNew object) (stamp (clock s) note object)).Fails s := by
    unfold put
    split
    · exact fails_insertObject h _
    · exact fails_overwrite h _
  obtain ⟨f, hf⟩ := hput
  refine ⟨f, ?_⟩
  rw [save_run]
  rcases hanswer : (c.put (isNew object) (stamp (clock s) note object)).on s with ⟨answer, t⟩
  rw [hanswer] at hf
  cases hf
  rfl

theorem fails_delete (object : α) (note : String) :
    ∃ f, ((c.delete object note).run s).1.1 = .error f := by
  cases hnew : isNew object with
  | true =>
    rw [delete, if_pos hnew]
    exact ⟨_, rfl⟩
  | false =>
    obtain ⟨f, hf⟩ := fails_save h (marked (clock s) note object) note
    rcases hsave : (c.save (marked (clock s) note object) note).run s with ⟨⟨answer, after⟩, t⟩
    rw [hsave] at hf
    cases hf
    rw [delete_run_of_save hnew hsave]
    exact ⟨_, rfl⟩

end Objects

theorem refused_of_ended : c.Refused s where
  count _ := fails_call h (Host.count_eq_issue _ _ _ _) _ _ _
  hardDelete _ := fails_call h (Host.delete_eq_issue _ _ _ _) _ _ _
  iterate _ _ := (fails_call h (Host.find_eq_issue _ _ _ _ _) _ _ _).bind _
  load _ _ := (fails_call h (Host.findOne_eq_issue _ _ _ _ _) _ _ _).bind _
  query criteria options := fails_query h criteria options
  save object note := fails_save h object note
  delete object note := fails_delete h object note

end Ended

end Collection

namespace Host

open StoreAction

variable {n : SessionNumber} {s : Host}

/-- What can be done in a session that has ended: nothing but to begin a transaction that stays empty,
and to commit it. -/
structure Over (n : SessionNumber) (s : Host) : Prop where
  ended : s.store.isEnded (some n) = true
  /-- Commands are refused, for the same reason whatever documents are committed. -/
  refused : ∀ (context : Context) (collection : String) (command : Command), ∃ e,
    ∀ tables version,
      ((issue context (some n) collection command).on (s.storing tables version)).1 = .error e
  collections : ∀ c : Collection, c.session = some n → c.Refused s
  committed : ∀ c : Call, c.session? = some n →
    (c.run s).2.store.tables = s.store.tables ∧ (c.run s).2.store.version = s.store.version
  begins : ∀ options, ((startTransaction n options).on s).1 = .ok () ↔
    ((enter none .startTransaction).on s).1 = .ok () ∧ Call.isOpen n s = false
  commits : ((commitTransaction n).on s).1 = .ok () ↔
    ((enter none .commit).on s).1 = .ok () ∧ Call.isOpen n s = true

theorem Closed.over (h : s.Closed n) : s.Over n where
  ended := h.ended
  refused context collection command := by
    obtain ⟨e, hrefused, -⟩ := issue_of_ended h.ended context collection command
    exact ⟨e, hrefused⟩
  collections c hc := Collection.refused_of_ended (hc ▸ h.ended)
  committed _ hc := h.run_committed hc
  begins options := startTransaction_fst_iff n options s
  commits := h.commitTransaction_fst_iff

/-- Whatever is called from now on, by whomever, the session stays over, and it has a transaction only
if one was started in it. -/
def StaysOver (n : SessionNumber) (s : Host) : Prop :=
  ∀ calls : List Call,
    let t := (Call.runAll s calls).2
    t.Over n ∧ (Call.isOpen n t = true → ∃ options, .startTransaction n options ∈ calls)

theorem Closed.staysOver (h : s.Closed n) (hclosed : Call.isOpen n s = false) : s.StaysOver n := by
  intro calls t
  refine ⟨(h.runAll calls).over, fun hopen => ?_⟩
  refine (h.runAll_opens hopen).resolve_left ?_
  rw [hclosed]
  decide

theorem staysOver_endSession (h : n < s.store.sessions.length) : (endSession n s).StaysOver n := by
  refine (closed_endSession h).staysOver ?_
  rw [Call.isOpen, endSession_openTransaction?]
  rfl

end Host

namespace Server

open Host

/-- However the work ends, its session is ended after it. -/
theorem finish_snd (n : SessionNumber) (outcome : Outcome β) (s : Host) :
    ∃ t, (finish n outcome s).2 = endSession n t ∧
      s.store.sessions.length ≤ t.store.sessions.length := by
  have habandon := (abandon_sameOutside n s).sessions
  cases outcome with
  | returned v =>
    rcases hcommit : (commitTransaction n).on s with ⟨e | u, t⟩
    · refine ⟨((abandon n).run t).2, ?_, ?_⟩
      · simp only [finish, conclude_run, hcommit]
      · exact Nat.le_trans (commitTransaction_error hcommit).sessions
          (abandon_sameOutside n t).sessions
    · refine ⟨t, ?_, (commitTransaction_ok hcommit).sessions⟩
      rw [finish_committed hcommit]
  | failed f => exact ⟨_, rfl, habandon⟩
  | unwound => exact ⟨_, rfl, habandon⟩

/-- Once its session could be started, a transaction leaves it ended. -/
theorem observe_snd (server : Server) (context : Context)
    (work : (w : UnitOfWork) → Activity w.session (Outcome β)) {s : Host}
    (hstarted : ((startSession server.sessionOptions).on s).1 = .ok s.store.sessions.length) :
    ∃ t, (server.observe context work s).1.2 = endSession s.store.sessions.length t ∧
      s.store.sessions.length < t.store.sessions.length := by
  rw [observe_eq]
  rcases hstart : (startSession server.sessionOptions).on s with ⟨e | n, t⟩
  · rw [hstart] at hstarted
    cases hstarted
  · obtain ⟨rfl, hlength⟩ := startSession_ok hstart
    dsimp only
    rcases hbegun : (startTransaction s.store.sessions.length server.transactionOptions).on t with
      ⟨e | _, u⟩
    · exact ⟨u, rfl, Nat.lt_of_lt_of_le hlength (startTransaction_error hbegun).sessions⟩
    · have hbegan := (startTransaction_ok hbegun hlength).sessions
      have hrun := ((work ⟨context, some s.store.sessions.length, server.settings⟩).run_evolves
        u).sessions
      obtain ⟨v, hfinish, hfinished⟩ := finish_snd s.store.sessions.length
        ((work ⟨context, some s.store.sessions.length, server.settings⟩).run u).1
        ((work ⟨context, some s.store.sessions.length, server.settings⟩).run u).2.2
      have hgrown := Nat.le_trans hbegan (Nat.le_trans hrun hfinished)
      exact ⟨v, hfinish, Nat.lt_of_lt_of_le hlength hgrown⟩

end Server

/-- A session that was ended is over for good, and so is that of a transaction, in whichever way the
transaction came to its end. -/
theorem endedSessions_stayOver (β : Type) (s : Host) :
    (∀ n < s.store.sessions.length, (Host.endSession n s).StaysOver n) ∧
    ∀ (server : Server) (context : Context)
      (work : (w : UnitOfWork) → Activity w.session (Outcome β)),
      let n := s.store.sessions.length
      ((Host.startSession server.sessionOptions).on s).1 = .ok n →
      (server.observe context work s).1.2.StaysOver n := by
  refine ⟨fun n h => Host.staysOver_endSession h, ?_⟩
  intro server context work n hstarted
  obtain ⟨t, hend, hlength⟩ := server.observe_snd context work hstarted
  rw [hend]
  exact Host.staysOver_endSession hlength

end

open scoped Regex
open PersistentObject (isNew)

/-- A third note is written in a session that ends before it is committed, and in a transaction that
commits it. Either way the session is over. -/
theorem endedSessions_stayOver_written :
    let note : Int32 → Document := fun id => [("_id", .int32 id)]
    let s : Host :=
      { store := { database := "d", tables := Tables.empty.set "c" [note 1, note 2] }
        timeline := { now := 0 } }
    let begun := ((Host.startTransaction 0 {}).on ((Host.startSession {}).on s).2).2
    let written := ((Host.issue .background (some 0) "c" (.insert (note 3))).on begun).2
    let work (w : UnitOfWork) : Activity w.session (Outcome Unit) :=
      .command w.context "c" (.insert (note 3)) fun _ => .done (.returned ())
    let observed := (Server.observe {} .background work s).1.2
    (written.store.visibleTables (some 0) "c" = [note 1, note 2, note 3] ∧
      (Host.endSession 0 written).store.tables "c" = [note 1, note 2] ∧
      (Host.endSession 0 written).StaysOver 0) ∧
    observed.store.tables "c" = [note 1, note 2, note 3] ∧ observed.StaysOver 0 := by
  intro note s begun written work observed
  have hended := (endedSessions_stayOver Unit written).1
  have htransactions := (endedSessions_stayOver Unit s).2
  exact ⟨⟨rfl, rfl, hended 0 (by decide)⟩, rfl, htransactions {} .background work rfl⟩

/-- In a session that has ended a transaction begins, and is committed. -/
theorem startTransaction_of_ended :
    let fresh : Host := { store := { database := "d" }, timeline := { now := 0 } }
    let ended : Host := Host.endSession 0 ((Host.startSession {}).on fresh).2
    let begun := (Host.startTransaction 0 {}).on ended
    ended.store.isEnded (some 0) = true ∧ begun.1 = .ok () ∧ Call.isOpen 0 begun.2 = true ∧
      ((Host.commitTransaction 0).on begun.2).1 = .ok () :=
  ⟨rfl, rfl, rfl, rfl⟩

end DocStore
