import DocStore.Proofs.Transaction.Clients
import DocStore.Proofs.Transaction.Phases
import DocStore.Regex.Default
/-!
A transaction leaves everything or nothing. The work in it is any program that uses the collections of
its session, and comes to an activity: it may issue any commands, other clients may make any calls
meanwhile, and any call may fail. If the transaction succeeds, the commands of the
work lead from the tables that it started on to the committed ones; otherwise the other clients find
what they would have found without it. In every case the session is over in the end. Calls of other
clients that fall between the work and the commit are taken to be made at the end of the work.
-/
namespace DocStore

open Execution

namespace Outcome

def isReturned : Outcome α → Bool
  | .returned _ => true
  | .failed _ | .unwound => false

theorem exists_of_isReturned {outcome : Outcome α} (h : outcome.isReturned = true) :
    ∃ v, outcome = .returned v := by
  cases outcome with
  | returned v => exact ⟨v, rfl⟩
  | failed f => cases h
  | unwound => cases h

end Outcome

/-- No session has the next number, nor a transaction with it. -/
theorem Store.openTransaction?_length (s : Store) :
    s.openTransaction? (some s.sessions.length) = none := by
  rw [openTransaction?_some, List.getElem?_eq_none (Nat.le_refl _)]
  rfl

section

variable [Regex.Engine]

namespace Server

/-- A transaction whose work keeps a record of its runs. -/
def observe (server : Server) (context : Context)
    (work : (w : UnitOfWork) → Activity w.session (Outcome β)) (s : Host) :
    (Outcome β × Host) × List (Stay β) :=
  ((server.withTransaction context (observed work)).run s).run []

theorem observe_eq (server : Server) (context : Context)
    (work : (w : UnitOfWork) → Activity w.session (Outcome β)) (s : Host) :
    server.observe context work s =
      match (Host.startSession server.sessionOptions).on s with
      | (.error e, t) =>
        ((.failed (.ofStore transactionLocation "unable to start database session" e), t), [])
      | (.ok n, t) =>
        match (Host.startTransaction n server.transactionOptions).on t with
        | (.error e, u) =>
          ((.failed (.ofStore transactionLocation "unable to start transaction" e),
            Host.endSession n u), [])
        | (.ok _, u) =>
          let w : UnitOfWork := ⟨context, some n, server.settings⟩
          let (outcome, events, v) := (work w).run u
          (finish n outcome v, [⟨w, u, events, outcome, v⟩]) := by
  rw [observe, withTransaction_run]
  rcases (Host.startSession server.sessionOptions).on s with ⟨e | n, t⟩
  · rfl
  · dsimp only
    rcases (Host.startTransaction n server.transactionOptions).on t with ⟨e | u, v⟩
    · rfl
    · rfl

omit [Regex.Engine] in
/-- The work is done, and its transaction was committed. -/
theorem finish_committed {n : SessionNumber} {v : β} {s t : Host}
    (h : (Host.commitTransaction n).on s = (.ok (), t)) :
    finish n (.returned v) s = (.returned v, Host.endSession n t) := by
  simp only [finish, conclude_run, h]

/-- The work is not done, or its transaction could not be committed. -/
structure GivesUp (n : SessionNumber) (outcome : Outcome β) (s : Host) (result : Outcome β)
    (t : Host) : Prop where
  failed : result.isReturned = false
  unchanged : outcome.isReturned = false → result = outcome
  outside : s.SameOutside n t
  commits : t.counts .commit = s.counts .commit + if outcome.isReturned then 1 else 0
  aborts : t.counts .abort = s.counts .abort + 1

theorem abandon_givesUp (n : SessionNumber) (outcome : Outcome β)
    (h : outcome.isReturned = false) (s : Host) :
    GivesUp n outcome s outcome ((abandon n).run s).2 := by
  have hcounts := abandon_counts n s
  refine ⟨h, fun _ => rfl, abandon_sameOutside n s, ?_, ?_⟩
  · rw [hcounts, h]
    rfl
  · rw [hcounts]
    rfl

theorem finish_givesUp (n : SessionNumber) (outcome : Outcome β) (s : Host)
    (h : ∀ v t, outcome = .returned v → (Host.commitTransaction n).on s ≠ (.ok (), t)) :
    ∃ result t, finish n outcome s = (result, Host.endSession n t) ∧
      GivesUp n outcome s result t := by
  cases outcome with
  | returned v =>
    rcases hcommit : (Host.commitTransaction n).on s with ⟨e | u, t⟩
    · have hcounts := Host.commitTransaction_counts n s
      have habandon := abandon_givesUp n (.failed (commitFailure e) : Outcome β) rfl t
      rw [hcommit] at hcounts
      refine ⟨.failed (commitFailure e), ((abandon n).run t).2, ?_, rfl, nofun,
        (Host.commitTransaction_error hcommit).trans habandon.outside, ?_, ?_⟩
      · simp only [finish, conclude_run, hcommit]
      · rw [habandon.commits, hcounts]
        rfl
      · rw [habandon.aborts, hcounts]
        rfl
    · exact absurd hcommit (h v t rfl)
  | failed f => exact ⟨_, _, rfl, abandon_givesUp n _ rfl s⟩
  | unwound => exact ⟨_, _, rfl, abandon_givesUp n _ rfl s⟩

end Server

/-- What has become of a transaction that started on one host and ended on another. What the others
would have left are the tables and transactions after their events alone. -/
structure Stay.Settles (stay : Stay β) (n : SessionNumber) (s : Host) (result : Outcome β)
    (t : Host) : Prop where
  alone : s.store.ledger.AdmitsAll s.store.database (others n stay.events)
  committed : ∀ v, result = .returned v → stay.outcome = .returned v ∧
    if (ownBlock n stay.events).any wrote then
      Replays s.store.database s.store.tables (ownBlock n stay.events) t.store.tables
    else t.store.ledger = s.store.ledger.afterAll s.store.database (others n stay.events)
  undone : result.isReturned = false →
    t.store.ledger = s.store.ledger.afterAll s.store.database (others n stay.events)
  unchanged : stay.outcome.isReturned = false → result = stay.outcome
  accepted : result.isReturned = true ↔ stay.outcome.isReturned = true ∧
    ((Host.commitTransaction n).on stay.after).1 = .ok ()
  commits : t.counts .commit = stay.after.counts .commit + if stay.outcome.isReturned then 1 else 0
  aborts : t.counts .abort = stay.after.counts .abort + if result.isReturned then 0 else 1

namespace Stay

variable {n : SessionNumber} {s : Host} {stay : Stay β}

/-- What is known when the work is over. -/
structure InTransaction (stay : Stay β) (n : SessionNumber) (s : Host) : Prop where
  database : stay.after.store.database = s.store.database
  alone : s.store.ledger.AdmitsAll s.store.database (others n stay.events)
  outside : stay.after.store.ledger.without n =
    s.store.ledger.afterAll s.store.database (others n stay.events)
  snapshot : ∃ transaction, stay.after.store.ledger.transactions n = some transaction ∧
    stay.after.store.ledger.Snapshot s.store.database transaction (ownBlock n stay.events)
      s.store.tables

/-- Work that starts in a transaction of its own ends in it. -/
theorem inTransaction_of_run {options : TransactionOptions} {begun : Host}
    (a : Activity (some n) (Outcome β)) (w : UnitOfWork)
    (hclosed : s.store.ledger.transactions n = none)
    (hbegun : begun.store.ledger =
      s.store.ledger.after s.store.database (.began n options))
    (hdatabase : begun.store.database = s.store.database) :
    InTransaction ⟨w, begun, (a.run begun).2.1, (a.run begun).1, (a.run begun).2.2⟩ n s := by
  have hevolves := a.run_evolves begun
  have hevents := a.run_onlyExecutes begun
  have hadmits := hevolves.admitted
  have hledger := hevolves.ledger
  rw [hdatabase, hbegun] at hadmits hledger
  have hopen : (s.store.ledger.after s.store.database (.began n options)).transactions n =
      some ⟨s.store.version, s.store.tables, false, options⟩ := Ledger.setTransaction_self _
  have hsnapshot : (s.store.ledger.after s.store.database (.began n options)).Snapshot
      s.store.database ⟨s.store.version, s.store.tables, false, options⟩ [] s.store.tables :=
    ⟨replays_nil, rfl, Nat.le_refl _, fun _ => rfl⟩
  have hwithout : (s.store.ledger.after s.store.database (.began n options)).without n =
      s.store.ledger :=
    (Ledger.setTransaction_without _ n _).trans (Ledger.setTransaction_of_eq hclosed)
  obtain ⟨halone, hafter⟩ := Ledger.afterAll_without hopen hadmits hevents
  rw [hwithout] at halone hafter
  obtain ⟨t, ht, hown⟩ := hsnapshot.afterAll hopen hadmits hevents
  rw [← hledger] at hafter ht hown
  exact ⟨hevolves.database.trans hdatabase, halone, hafter.symm, t, ht, hown⟩

theorem InTransaction.settles_of_commit (h : stay.InTransaction n s) {v : β} {t : Host}
    (houtcome : stay.outcome = .returned v)
    (hcommit : (Host.commitTransaction n).on stay.after = (.ok (), t)) :
    stay.Settles n s (.returned v) (Host.endSession n t) := by
  obtain ⟨transaction, hn, hsnapshot⟩ := h.snapshot
  have hcounts := Host.commitTransaction_counts n stay.after
  have hledger := (Host.commitTransaction_ok hcommit).ledger
  rw [hcommit] at hcounts
  simp only [Ledger.after, hn] at hledger
  refine ⟨h.alone, ?_, fun hfailed => ?_, fun hfailed => ?_, ?_, ?_, ?_⟩
  · intro v' hv'
    cases hv'
    refine ⟨houtcome, ?_⟩
    rw [← hsnapshot.dirty]
    cases hdirty : transaction.dirty with
    | false =>
      rw [hdirty] at hledger
      simp only [Bool.false_eq_true, if_false]
      rw [Host.endSession_ledger, hledger, ← h.outside]
      exact stay.after.store.ledger.without_without n
    | true =>
      rw [hdirty] at hledger
      simp only [if_true]
      have htables : t.store.tables = transaction.tables := congrArg Ledger.tables hledger
      change Replays _ _ _ t.store.tables
      rw [htables]
      exact hsnapshot.replays
  · cases hfailed
  · rw [houtcome] at hfailed
    cases hfailed
  · simp [houtcome, hcommit, Outcome.isReturned]
  · rw [houtcome]
    exact congrFun hcounts .commit
  · exact congrFun hcounts .abort

theorem InTransaction.settles_of_givesUp (h : stay.InTransaction n s) {result : Outcome β}
    {t : Host} (hgives : Server.GivesUp n stay.outcome stay.after result t)
    (hcommit : ∀ v t, stay.outcome = .returned v →
      (Host.commitTransaction n).on stay.after ≠ (.ok (), t)) :
    stay.Settles n s result (Host.endSession n t) := by
  have hfailed := hgives.failed
  refine ⟨h.alone, ?_, ?_, hgives.unchanged, ?_, hgives.commits, ?_⟩
  · rintro v rfl
    cases hfailed
  · intro _
    rw [Host.endSession_ledger, hgives.outside.ledger, h.outside]
  · rw [hfailed]
    refine ⟨nofun, ?_⟩
    rintro ⟨hreturned, hok⟩
    obtain ⟨v, hv⟩ := Outcome.exists_of_isReturned hreturned
    exact (hcommit v _ hv (Prod.ext hok rfl)).elim
  · rw [hfailed]
    exact hgives.aborts

theorem InTransaction.settles_finish (h : stay.InTransaction n s)
    (hlength : n < stay.after.store.sessions.length) :
    stay.Settles n s (Server.finish n stay.outcome stay.after).1
        (Server.finish n stay.outcome stay.after).2 ∧
      (Server.finish n stay.outcome stay.after).2.store.isEnded (some n) = true := by
  by_cases hcommit : ∃ v t, stay.outcome = .returned v ∧
      (Host.commitTransaction n).on stay.after = (.ok (), t)
  · obtain ⟨v, t, houtcome, hcommit⟩ := hcommit
    have ht : stay.after.store.sessions.length ≤ t.store.sessions.length :=
      (Host.commitTransaction_ok hcommit).sessions
    rw [houtcome, Server.finish_committed hcommit]
    exact ⟨h.settles_of_commit houtcome hcommit,
      Host.endSession_isEnded (Nat.lt_of_lt_of_le hlength ht)⟩
  · have hnever : ∀ v t, stay.outcome = .returned v →
        (Host.commitTransaction n).on stay.after ≠ (.ok (), t) :=
      fun v t houtcome hok => hcommit ⟨v, t, houtcome, hok⟩
    obtain ⟨result, t, hfinish, hgives⟩ := Server.finish_givesUp n stay.outcome stay.after hnever
    rw [hfinish]
    exact ⟨h.settles_of_givesUp hgives hnever,
      Host.endSession_isEnded (Nat.lt_of_lt_of_le hlength hgives.outside.sessions)⟩

end Stay

/-- Work that is done in a transaction of its own settles it, and the session is over. -/
theorem Server.settles_of_begun (server : Server) {n : SessionNumber} {s t u : Host}
    (hstarted : (Host.startSession server.sessionOptions).on s = (.ok n, t))
    (hbegun : (Host.startTransaction n server.transactionOptions).on t = (.ok (), u))
    (w : UnitOfWork) (a : Activity (some n) (Outcome β)) :
    let (outcome, events, v) := a.run u
    Stay.Settles ⟨w, u, events, outcome, v⟩ n s (finish n outcome v).1 (finish n outcome v).2 ∧
      (finish n outcome v).2.store.isEnded (some n) = true := by
  obtain ⟨rfl, hlength⟩ := Host.startSession_ok hstarted
  have hstartMoves := Host.startSession_moves server.sessionOptions s
  rw [hstarted] at hstartMoves
  have hbeginMoves := Host.startTransaction_ok hbegun hlength
  have hledger := hbeginMoves.ledger
  rw [hstartMoves.ledger, hstartMoves.database] at hledger
  have htransaction := Stay.inTransaction_of_run a w (Store.openTransaction?_length s.store) hledger
    (hbeginMoves.database.trans hstartMoves.database)
  have hlater := Nat.le_trans hbeginMoves.sessions (a.run_evolves u).sessions
  exact htransaction.settles_finish (Nat.lt_of_lt_of_le hlength hlater)

theorem Server.finish_openTransaction? (n : SessionNumber) (outcome : Outcome β) (s : Host) :
    (finish n outcome s).2.store.openTransaction? (some n) = none :=
  Host.endSession_openTransaction? n _

/-- A transaction comes to the same whether its work is a program or the activity that does it. -/
theorem withTransaction_of_does (server : Server) (context : Context)
    {program : UnitOfWork → StateM Host (Outcome β)}
    {work : (w : UnitOfWork) → Activity w.session (Outcome β)}
    (h : ∀ w, (work w).Does (program w)) (s : Host) :
    (server.withTransaction context program).run s = (server.observe context work s).1 := by
  rw [Server.observe_eq, Server.withTransaction_run]
  rcases (Host.startSession server.sessionOptions).on s with ⟨e | n, t⟩
  · rfl
  · dsimp only
    rcases (Host.startTransaction n server.transactionOptions).on t with ⟨e | _, u⟩
    · rfl
    · dsimp only
      rw [h ⟨context, some n, server.settings⟩ u]
      rfl

/-- The work of a transaction is any program that uses the collections of its session: that is an
activity, which the transaction comes to the same with. And whatever an activity does, and whichever
calls fail: it runs once if both the session and the transaction could be started, and not at all
otherwise; what it wrote is committed entirely or not at all; and a session that was started has ended,
with no transaction. -/
theorem withTransaction_allOrNothing (server : Server) (context : Context) :
    (∀ program : UnitOfWork → StateM Host (Outcome β), (∀ w, InSession w.session (program w)) →
      ∃ work : (w : UnitOfWork) → Activity w.session (Outcome β),
        (∀ w, (work w).Does (program w)) ∧
        ∀ s, (server.withTransaction context program).run s =
          (((server.withTransaction context (observed work)).run s).run []).1) ∧
    ∀ (work : (w : UnitOfWork) → Activity w.session (Outcome β)) (s : Host),
    let n := s.store.sessions.length
    let started := (Host.startSession server.sessionOptions).on s
    let begun := (Host.startTransaction n server.transactionOptions).on started.2
    let w : UnitOfWork := ⟨context, some n, server.settings⟩
    let ((result, t), stays) := ((server.withTransaction context (observed work)).run s).run []
    (started.1 = .ok n ∧ begun.1 = .ok () →
      ∃ events outcome after, (work w).run begun.2 = (outcome, events, after) ∧
        stays = [⟨w, begun.2, events, outcome, after⟩] ∧
        begun.2.counts .commit = s.counts .commit ∧ begun.2.counts .abort = s.counts .abort ∧
        Stay.Settles ⟨w, begun.2, events, outcome, after⟩ n s result t) ∧
    (¬(started.1 = .ok n ∧ begun.1 = .ok ()) →
      stays = [] ∧ result.isReturned = false ∧ t.store.ledger = s.store.ledger ∧
        t.counts .commit = s.counts .commit ∧ t.counts .abort = s.counts .abort) ∧
    (started.1 = .ok n →
      t.store.isEnded (some n) = true ∧ t.store.openTransaction? (some n) = none) := by
  refine ⟨fun program hprogram => ?_, fun work s => ?_⟩
  · choose work hwork using fun w => (hprogram w).exists_does
    exact ⟨work, hwork, withTransaction_of_does server context hwork⟩
  have hobserve : ((server.withTransaction context (observed work)).run s).run [] = _ :=
    Server.observe_eq server context work s
  have hclosed : s.store.ledger.transactions s.store.sessions.length = none :=
    Store.openTransaction?_length s.store
  have hstartCounts := Host.startSession_counts server.sessionOptions s
  have hstartMoves := Host.startSession_moves server.sessionOptions s
  rw [hobserve]
  rcases hstarted : (Host.startSession server.sessionOptions).on s with ⟨e | n, t⟩
  · rw [hstarted] at hstartCounts hstartMoves
    refine ⟨nofun, fun _ => ⟨rfl, rfl, hstartMoves.ledger, ?_, ?_⟩, nofun⟩
    · exact congrFun hstartCounts .commit
    · exact congrFun hstartCounts .abort
  · rw [hstarted] at hstartCounts hstartMoves
    obtain ⟨rfl, hlength⟩ := Host.startSession_ok hstarted
    have hbeginCounts := Host.startTransaction_counts s.store.sessions.length
      server.transactionOptions t
    dsimp only
    rcases hbegun : (Host.startTransaction s.store.sessions.length server.transactionOptions).on t
      with ⟨e | _, u⟩
    · rw [hbegun] at hbeginCounts
      have hbeginMoves := Host.startTransaction_error hbegun
      have hu : s.store.sessions.length < u.store.sessions.length :=
        Nat.lt_of_lt_of_le hlength hbeginMoves.sessions
      refine ⟨nofun, fun _ => ⟨rfl, rfl, ?_, ?_, ?_⟩, fun _ => ⟨Host.endSession_isEnded hu,
        Host.endSession_openTransaction? _ u⟩⟩
      · rw [Host.endSession_ledger, hbeginMoves.ledger, Ledger.after, hstartMoves.ledger]
        exact Ledger.setTransaction_of_eq hclosed
      · exact (congrFun hbeginCounts .commit).trans (congrFun hstartCounts .commit)
      · exact (congrFun hbeginCounts .abort).trans (congrFun hstartCounts .abort)
    · rw [hbegun] at hbeginCounts
      obtain ⟨hsettles, hended⟩ := server.settles_of_begun hstarted hbegun
        ⟨context, some s.store.sessions.length, server.settings⟩
        (work ⟨context, some s.store.sessions.length, server.settings⟩)
      dsimp only
      rcases hrun : (work ⟨context, some s.store.sessions.length, server.settings⟩).run u
        with ⟨outcome, events, v⟩
      rw [hrun] at hsettles hended
      refine ⟨fun _ => ⟨events, outcome, v, rfl, rfl, ?_, ?_, hsettles⟩,
        fun hnot => absurd ⟨rfl, rfl⟩ hnot,
        fun _ => ⟨hended, Server.finish_openTransaction? _ outcome v⟩⟩
      · exact (congrFun hbeginCounts .commit).trans (congrFun hstartCounts .commit)
      · exact (congrFun hbeginCounts .abort).trans (congrFun hstartCounts .abort)

end

open scoped Regex

set_option maxRecDepth 2048 in
/-- A program removes a document in a transaction, and the document is gone unless the commit fails.
The session is over in both cases. -/
theorem withTransaction_allOrNothing_removal :
    let note : Int32 → Document := fun id => [("_id", .int32 id)]
    let host (points : List FailPoint) : Host :=
      { store := { database := "d", tables := Tables.empty.set "c" [note 1, note 2],
                   hooks := { failPoints := points } }
        timeline := { now := 0 } }
    let removal (w : UnitOfWork) : StateM Host (Outcome Unit) := do
      let _ ← ((w.collection "c").hardDelete (.equal "_id" (.int32 1))).run
      return .returned ()
    let after (points : List FailPoint) :=
      (Server.withTransaction {} .background removal).run (host points)
    let failing : FailPoint := ⟨.commit, .timeout, 1⟩
    (∃ work : (w : UnitOfWork) → Activity w.session (Outcome Unit),
      ∀ w, (work w).Does (removal w)) ∧
      ((after []).1.isReturned = true ∧ (after []).2.store.tables "c" = [note 2] ∧
        (after []).2.store.isEnded (some 0) = true) ∧
      (after [failing]).1.isReturned = false ∧
        (after [failing]).2.store.tables "c" = [note 1, note 2] ∧
        (after [failing]).2.store.isEnded (some 0) = true := by
  intro note host removal after failing
  have hsession : ∀ w, InSession w.session (removal w) := fun w =>
    .bind (.hardDelete (w.collection "c") rfl _) fun _ => .aside fun s => ⟨rfl, rfl, rfl, rfl⟩
  obtain ⟨hprogram, hactivity⟩ := withTransaction_allOrNothing (β := Unit) {} .background
  obtain ⟨work, hdoes, hsame⟩ := hprogram removal hsession
  have hended : ∀ points, ((Host.startSession {}).on (host points)).1 = .ok 0 →
      (after points).2.store.isEnded (some 0) = true := by
    intro points hstarted
    change ((Server.withTransaction {} .background removal).run (host points)).2.store.isEnded _ = true
    rw [hsame]
    exact ((hactivity work (host points)).2.2 hstarted).1
  exact ⟨⟨work, hdoes⟩, ⟨rfl, rfl, hended [] rfl⟩, rfl, rfl, hended [failing] rfl⟩

end DocStore
