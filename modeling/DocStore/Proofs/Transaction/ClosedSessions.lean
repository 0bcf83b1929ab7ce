import DocStore.Proofs.Collection.Storing
import DocStore.Proofs.Store.Invariants
import DocStore.Proofs.Transaction.Phases
/-!
Sessions that have ended. They stay so, and every command in one is refused before it comes to the
documents. A transaction can still be begun in one, since only commands ask whether their session has
ended; but nothing can be written in it, so that it changes nothing, and committing it neither.
-/
namespace DocStore

namespace Host

open StoreAction

variable {s : Host} {n : SessionNumber}

section Blindness

/-- The same host with other documents committed. -/
def storing (tables : Tables) (version : Nat) (s : Host) : Host :=
  { s with store := { s.store with tables, version } }

/-- Actions that come to the same whatever documents are committed. -/
def Blind (x : StoreAction α) : Prop :=
  ∀ tables version s, x.on (s.storing tables version) =
    ((x.on s).1, (x.on s).2.storing tables version)

theorem Blind.bind {x : StoreAction α} {f : α → StoreAction β} (hx : Blind x)
    (hf : ∀ a, Blind (f a)) : Blind (x >>= f) := by
  intro tables version s
  rw [on_bind, on_bind, hx]
  rcases x.on s with ⟨e | a, t⟩
  · rfl
  · exact hf a tables version t

theorem blind_throw (e : StoreError) : Blind (throw e : StoreAction α) := fun _ _ _ => rfl

theorem blind_checkContext (context : Context) : Blind (checkContext context) := by
  intro tables version s
  rw [checkContext_on, checkContext_on]
  rfl

theorem blind_awaitLatency (context : Context) : Blind (awaitLatency context) := by
  intro tables version s
  have hlatency : (s.storing tables version).store.hooks.latency = s.store.hooks.latency := rfl
  rw [awaitLatency_on, awaitLatency_on, hlatency]
  cases s.store.hooks.latency <;> rfl

theorem blind_tripFailPoint (operation : Operation) : Blind (tripFailPoint operation) := by
  intro tables version s
  have hpoints : (s.storing tables version).store.hooks.failPoints = s.store.hooks.failPoints := rfl
  rw [tripFailPoint, on_get_bind, on_get_bind, hpoints]
  cases takeFailure operation s.store.hooks.failPoints <;> rfl

/-- Looking at a host is blind as long as nothing is made of its documents. -/
theorem blind_get_bind {f : Host → StoreAction α} (hf : ∀ s, Blind (f s))
    (hsame : ∀ tables version s, f (s.storing tables version) = f s) : Blind (get >>= f) := by
  intro tables version s
  rw [on_get_bind, on_get_bind, hsame]
  exact hf s tables version s

theorem blind_enter (context : Option Context) (operation : Operation) :
    Blind (enter context operation) := by
  have hcount : Blind (modifyStore fun s => { s with hooks := s.hooks.counted operation }) :=
    fun _ _ _ => rfl
  have hend := blind_tripFailPoint operation
  refine hcount.bind fun _ => blind_get_bind (fun s => ?_) fun _ _ _ => rfl
  cases context with
  | none =>
    dsimp only
    split
    · exact (blind_throw _).bind fun _ => hend
    · exact hend
  | some context =>
    have hwait := (blind_checkContext context).bind fun _ =>
      (blind_awaitLatency context).bind fun _ => hend
    dsimp only
    split
    · exact (blind_throw _).bind fun _ => hwait
    · exact hwait

theorem blind_admission (context : Context) (session : Option SessionNumber)
    (operation : Operation) : Blind (admission context session operation) := by
  refine (blind_enter (some context) operation).bind fun _ =>
    blind_get_bind (fun s => ?_) fun _ _ _ => rfl
  split
  · exact blind_throw _
  · exact fun _ _ _ => rfl

end Blindness

section Refusal

variable {context : Context} {session : Option SessionNumber} {collection : String}

theorem admission_of_ended (h : s.store.isEnded session = true) (context : Context)
    (operation : Operation) : ∃ e points timeline, (admission context session operation).on s =
      (.error e, (s.attempted operation).later points timeline) := by
  obtain ⟨answer, points, timeline, henter⟩ := enter_on (some context) operation s
  cases answer with
  | error e => exact ⟨e, points, timeline, on_bind_of_error henter _⟩
  | ok u =>
    have hended : ((s.attempted operation).later points timeline).store.isEnded session = true := h
    refine ⟨Store.sessionEnded, points, timeline, ?_⟩
    rw [admission, on_bind_of_ok henter, on_get_bind, if_pos hended]
    rfl

variable [Regex.Engine]

/-- A command in a session that has ended is refused, for the same reason whatever documents are
committed, and changes none. -/
theorem issue_of_ended (h : s.store.isEnded session = true) (context : Context)
    (collection : String) (command : Command) :
    ∃ e, (∀ tables version, ((issue context session collection command).on
        (s.storing tables version)).1 = .error e) ∧
      s.SameData ((issue context session collection command).on s).2 := by
  obtain ⟨e, points, timeline, hadmission⟩ := admission_of_ended h context command.operation
  refine ⟨e, fun tables version => ?_, ?_⟩
  · have hblind := blind_admission context session command.operation tables version s
    rw [hadmission] at hblind
    rw [issue_on, hblind]
  · rw [issue_on, hadmission]
    exact sameData_attempted command.operation points timeline s

theorem run_wrote_of_ended (h : s.store.isEnded session = true) {c : Call} {x : Execution}
    (hx : (c.run s).1 = .executed session x) : x.wrote = false := by
  obtain ⟨context, rfl⟩ := Call.eq_command_of_run hx
  obtain ⟨e, points, timeline, hadmission⟩ := admission_of_ended h context x.command.operation
  have hrefusal : x.refusal = Call.refusal? context session x.command s :=
    congrArg Execution.refusal (Event.executed.inj hx).2.symm
  rw [Execution.wrote, hrefusal, Call.refusal?, hadmission]
  rfl

end Refusal

end Host

namespace Store

theorem isEnded_modifySession {s : Store} {n : SessionNumber}
    (h : s.isEnded (some n) = true) (m : SessionNumber) {f : Session → Session}
    (hf : ∀ x : Session, x.ended = true → (f x).ended = true) :
    (s.modifySession m f).isEnded (some n) = true := by
  obtain ⟨x, hx, hended⟩ := (Option.any_eq_true _ _).mp h
  refine (Option.any_eq_true _ _).mpr ?_
  by_cases hm : m = n
  · refine ⟨f x, ?_, hf x hended⟩
    rw [hm, modifySession, List.getElem?_modify_eq, hx]
    rfl
  · refine ⟨x, ?_, hended⟩
    rw [modifySession, List.getElem?_modify_ne _ _ hm, hx]

theorem lt_of_isEnded {s : Store} {n : SessionNumber} (h : s.isEnded (some n) = true) :
    n < s.sessions.length := by
  obtain ⟨x, hx, -⟩ := (Option.any_eq_true _ _).mp h
  exact (List.getElem?_eq_some_iff.mp hx).1

end Store

namespace Host

open StoreAction

variable {s : Host} {n : SessionNumber}

theorem startSession_isEnded (h : s.store.isEnded (some n) = true) (options : SessionOptions) :
    ((startSession options).on s).2.store.isEnded (some n) = true := by
  obtain ⟨answer, points, timeline, henter⟩ := enter_on none .startSession s
  cases answer with
  | error e =>
    rw [startSession, on_bind_of_error henter]
    exact h
  | ok u =>
    rw [startSession, on_bind_of_ok henter, on_get_bind, on_modifyStore_bind, on_pure]
    have hlength := Store.lt_of_isEnded h
    change (s.store.sessions ++ [({ options } : Session)])[n]?.any Session.ended = true
    rw [List.getElem?_append_left hlength]
    exact h

theorem startTransaction_isEnded (h : s.store.isEnded (some n) = true) (m : SessionNumber)
    (options : TransactionOptions) :
    ((startTransaction m options).on s).2.store.isEnded (some n) = true := by
  obtain ⟨answer, points, timeline, henter⟩ := enter_on none .startTransaction s
  cases answer with
  | error e =>
    rw [startTransaction, on_bind_of_error henter]
    exact h
  | ok u =>
    rw [startTransaction, on_bind_of_ok henter, on_get_bind]
    dsimp only
    split
    · exact h
    · exact Store.isEnded_modifySession (s := s.store) h m fun _ hx => hx

theorem cleared_isEnded (h : s.store.isEnded (some n) = true) (m : SessionNumber) :
    (s.cleared m).store.isEnded (some n) = true := by
  change (s.store.modifySession m fun x => { x with transaction := none }).isEnded (some n) = true
  exact Store.isEnded_modifySession h m fun _ hx => hx

theorem settle_isEnded (h : s.store.isEnded (some n) = true) (m : SessionNumber)
    (transaction : Transaction) : (settle m transaction s).2.store.isEnded (some n) = true := by
  have hcleared := cleared_isEnded h m
  unfold settle
  split
  · split
    · exact hcleared
    · exact hcleared
  · exact hcleared

theorem commitTransaction_isEnded (h : s.store.isEnded (some n) = true) (m : SessionNumber) :
    ((commitTransaction m).on s).2.store.isEnded (some n) = true := by
  obtain ⟨answer, points, timeline, henter⟩ := enter_on none .commit s
  have hentered : ((s.attempted .commit).later points timeline).store.isEnded (some n) = true := h
  rw [commitTransaction_on, henter]
  cases answer with
  | error e => exact hentered
  | ok u =>
    dsimp only
    split
    · exact settle_isEnded hentered _ _
    · exact hentered

theorem abortTransaction_isEnded (h : s.store.isEnded (some n) = true) (m : SessionNumber) :
    ((abortTransaction m).on s).2.store.isEnded (some n) = true := by
  obtain ⟨answer, points, timeline, henter⟩ := enter_on none .abort s
  cases answer with
  | error e =>
    rw [abortTransaction, on_bind_of_error henter]
    exact h
  | ok u =>
    rw [abortTransaction, on_bind_of_ok henter]
    exact Store.isEnded_modifySession (s := s.store) h m fun _ hx => hx

variable [Regex.Engine]

/-- A session that has ended stays so, whoever calls. -/
theorem run_isEnded (h : s.store.isEnded (some n) = true) (c : Call) :
    (c.run s).2.store.isEnded (some n) = true := by
  cases c with
  | command context session collection x =>
    obtain ⟨answer, points, timeline, hadmission⟩ := admission_on context session x.operation s
    change ((issue context session collection x).on s).2.store.isEnded (some n) = true
    rw [issue_on, hadmission]
    cases answer with
    | error e => exact h
    | ok u => exact (carryOut_isEnded _ _ _ _ _).trans h
  | startSession options => exact startSession_isEnded h options
  | startTransaction m options =>
    have hended := startTransaction_isEnded h m options
    simp only [Call.run]
    split <;> rename_i hrun <;> rw [hrun] at hended <;> exact hended
  | commit m =>
    have hended := commitTransaction_isEnded h m
    simp only [Call.run]
    split <;> rename_i hrun <;> rw [hrun] at hended <;> exact hended
  | abort m =>
    have hended := abortTransaction_isEnded h m
    simp only [Call.run]
    split <;> rename_i hrun <;> rw [hrun] at hended <;> exact hended
  | endSession m => exact Store.isEnded_modifySession h m fun _ _ => rfl
  | meanwhile ambience => exact ((ambience.keeps s).isEnded _).trans h

end Host

variable [Regex.Engine]

namespace Ledger

variable {l : Ledger} {n : SessionNumber} {database : String} {e : Event}

/-- Nothing has been written in the transaction of a session, if it has one. -/
def Unwritten (n : SessionNumber) (l : Ledger) : Prop :=
  ∀ t, l.transactions n = some t → t.dirty = false

omit [Regex.Engine] in
theorem unwritten_of_none (h : l.transactions n = none) : l.Unwritten n := by
  intro t ht
  rw [h] at ht
  cases ht

/-- As long as no command is carried out in a session, its transaction is unwritten, and what happens
in the session leaves the committed documents as they are. -/
theorem Unwritten.after (h : l.Unwritten n) (database : String)
    (hrefused : ∀ x, e = .executed (some n) x → x.wrote = false) :
    (l.after database e).Unwritten n ∧ (e.session? = some n →
      (l.after database e).tables = l.tables ∧ (l.after database e).version = l.version) := by
  by_cases hsession : e.session? = some n
  · cases e with
    | idle => exact ⟨h, fun _ => ⟨rfl, rfl⟩⟩
    | executed session x =>
      cases hsession
      rw [Ledger.after, if_neg (by rw [hrefused x rfl]; decide)]
      exact ⟨h, fun _ => ⟨rfl, rfl⟩⟩
    | began m options =>
      cases hsession
      refine ⟨?_, fun _ => ⟨rfl, rfl⟩⟩
      intro t ht
      rw [Ledger.after, setTransaction_self] at ht
      cases ht
      rfl
    | committed m =>
      cases hsession
      rw [Ledger.after]
      cases htransaction : l.transactions n with
      | none => exact ⟨h, fun _ => ⟨rfl, rfl⟩⟩
      | some t =>
        simp only [h t htransaction, Bool.false_eq_true, if_false]
        exact ⟨unwritten_of_none (setTransaction_self none), fun _ => ⟨rfl, rfl⟩⟩
    | conflicted m | dropped m =>
      cases hsession
      exact ⟨unwritten_of_none (setTransaction_self none), fun _ => ⟨rfl, rfl⟩⟩
  · refine ⟨?_, fun h => absurd h hsession⟩
    rw [Unwritten, after_transactions_of_ne hsession]
    exact h

/-- A transaction that is there after an event was there before, or the event began it. -/
theorem isSome_of_after (hrefused : ∀ x, e = .executed (some n) x → x.wrote = false)
    (hopen : ((l.after database e).transactions n).isSome = true) :
    (l.transactions n).isSome = true ∨ ∃ options, e = .began n options := by
  by_cases hsession : e.session? = some n
  · have hclosed : ((l.setTransaction n none).transactions n).isSome ≠ true := by
      rw [setTransaction_self]
      decide
    cases e with
    | idle => exact .inl hopen
    | executed session x =>
      cases hsession
      rw [Ledger.after, if_neg (by rw [hrefused x rfl]; decide)] at hopen
      exact .inl hopen
    | began m options =>
      cases hsession
      exact .inr ⟨options, rfl⟩
    | committed m =>
      cases hsession
      rw [Ledger.after] at hopen
      split at hopen
      · split at hopen
        · exact absurd hopen hclosed
        · exact absurd hopen hclosed
      · exact .inl hopen
    | conflicted m | dropped m =>
      cases hsession
      exact absurd hopen hclosed
  · rw [after_transactions_of_ne hsession] at hopen
    exact .inl hopen

end Ledger

/-- A transaction begins only by the call that starts it. -/
theorem Call.eq_startTransaction_of_run {c : Call} {s : Host} {n : SessionNumber}
    {options : TransactionOptions} (h : (c.run s).1 = .began n options) :
    c = .startTransaction n options := by
  cases c with
  | command context session collection x => cases h
  | startSession options | endSession n | meanwhile ambience => cases h
  | startTransaction m options =>
    simp only [run] at h
    split at h
    · dsimp only at h
      split at h <;> cases h
      rfl
    · cases h
  | commit m =>
    simp only [run] at h
    split at h
    · cases h
    · dsimp only at h
      split at h <;> cases h
  | abort m =>
    simp only [run] at h
    split at h <;> cases h

/-- A call in a session makes an event of that session, or nothing happens. -/
theorem Call.session?_run {c : Call} {s : Host} {n : SessionNumber} (h : c.session? = some n) :
    (c.run s).1.session? = some n ∨ (c.run s).1 = .idle := by
  cases c with
  | command context session collection x => exact .inl h
  | startSession options | meanwhile ambience => cases h
  | startTransaction m options =>
    simp only [run]
    split
    · dsimp only
      split
      · exact .inl h
      · exact .inr rfl
    · exact .inr rfl
  | commit m =>
    simp only [run]
    split
    · exact .inl h
    · dsimp only
      split
      · exact .inl h
      · exact .inr rfl
  | abort m =>
    simp only [run]
    split
    · exact .inl h
    · exact .inr rfl
  | endSession m => exact .inl h

namespace Host

open StoreAction

variable {s : Host} {n : SessionNumber}

/-- A session that has ended, and in which nothing is written. -/
structure Closed (n : SessionNumber) (s : Host) : Prop where
  ended : s.store.isEnded (some n) = true
  unwritten : s.store.ledger.Unwritten n

theorem closed_endSession (h : n < s.store.sessions.length) : (endSession n s).Closed n :=
  ⟨endSession_isEnded h, Ledger.unwritten_of_none (endSession_openTransaction? n s)⟩

theorem Closed.run (h : s.Closed n) (c : Call) : (c.run s).2.Closed n := by
  refine ⟨run_isEnded h.ended c, ?_⟩
  rw [(run_moves c s).ledger]
  exact (h.unwritten.after _ fun x hx => run_wrote_of_ended h.ended hx).1

/-- What is called in a closed session changes no committed document. -/
theorem Closed.run_committed (h : s.Closed n) {c : Call} (hc : c.session? = some n) :
    (c.run s).2.store.tables = s.store.tables ∧ (c.run s).2.store.version = s.store.version := by
  have hledger := (run_moves c s).ledger
  by_cases hsession : (c.run s).1.session? = some n
  · have hafter := (h.unwritten.after s.store.database
      fun x hx => run_wrote_of_ended h.ended hx).2 hsession
    rw [← hledger] at hafter
    exact hafter
  · have hidle := (Call.session?_run hc).resolve_left hsession
    rw [hidle] at hledger
    exact ⟨congrArg Ledger.tables hledger, congrArg Ledger.version hledger⟩

theorem Closed.run_opens (h : s.Closed n) {c : Call} (hopen : Call.isOpen n (c.run s).2 = true) :
    Call.isOpen n s = true ∨ ∃ options, c = .startTransaction n options := by
  change ((c.run s).2.store.ledger.transactions n).isSome = true at hopen
  rw [(run_moves c s).ledger] at hopen
  rcases Ledger.isSome_of_after (fun x hx => run_wrote_of_ended h.ended hx) hopen with
    hbefore | ⟨options, hbegan⟩
  · exact .inl hbefore
  · exact .inr ⟨options, Call.eq_startTransaction_of_run hbegan⟩

theorem Closed.runAll (h : s.Closed n) (calls : List Call) : (Call.runAll s calls).2.Closed n := by
  induction calls generalizing s with
  | nil => exact h
  | cons c rest ih => exact ih (h.run c)

theorem Closed.runAll_opens (h : s.Closed n) {calls : List Call}
    (hopen : Call.isOpen n (Call.runAll s calls).2 = true) :
    Call.isOpen n s = true ∨ ∃ options, .startTransaction n options ∈ calls := by
  induction calls generalizing s with
  | nil => exact .inl hopen
  | cons c rest ih =>
    rcases ih (h.run c) hopen with hstep | ⟨options, hrest⟩
    · rcases h.run_opens hstep with hbefore | ⟨options, rfl⟩
      · exact .inl hbefore
      · exact .inr ⟨options, List.mem_cons_self⟩
    · exact .inr ⟨options, List.mem_cons_of_mem _ hrest⟩

section Phases

omit [Regex.Engine] in
theorem startTransaction_fst_iff (n : SessionNumber) (options : TransactionOptions) (s : Host) :
    ((startTransaction n options).on s).1 = .ok () ↔
      ((enter none .startTransaction).on s).1 = .ok () ∧ Call.isOpen n s = false := by
  obtain ⟨answer, points, timeline, henter⟩ := enter_on none .startTransaction s
  have hopen : Call.isOpen n ((s.attempted .startTransaction).later points timeline) =
    Call.isOpen n s := rfl
  rw [henter]
  cases answer with
  | error e =>
    rw [startTransaction, on_bind_of_error henter]
    constructor
    · intro hbegun
      cases hbegun
    · intro hentered
      cases hentered.1
  | ok u =>
    rw [startTransaction, on_bind_of_ok henter, on_get_bind]
    dsimp only
    split
    · rename_i hsome
      have hbusy : Call.isOpen n s = true := hsome
      rw [hbusy]
      constructor
      · intro hbegun
        cases hbegun
      · intro hidle
        cases hidle.2
    · rename_i hnone
      have hidle : Call.isOpen n s = false := Bool.not_eq_true _ ▸ hnone
      rw [hidle]
      exact ⟨fun _ => ⟨rfl, rfl⟩, fun _ => rfl⟩

omit [Regex.Engine] in
theorem Closed.commitTransaction_fst_iff (h : s.Closed n) :
    ((commitTransaction n).on s).1 = .ok () ↔
      ((enter none .commit).on s).1 = .ok () ∧ Call.isOpen n s = true := by
  obtain ⟨answer, points, timeline, henter⟩ := enter_on none .commit s
  have hopen : ((s.attempted .commit).later points timeline).store.openTransaction? (some n) =
    s.store.openTransaction? (some n) := rfl
  rw [commitTransaction_on, henter, Call.isOpen]
  cases answer with
  | error e =>
    constructor
    · intro hcommitted
      cases hcommitted
    · intro hentered
      cases hentered.1
  | ok u =>
    dsimp only
    rw [hopen]
    cases htransaction : s.store.openTransaction? (some n) with
    | none =>
      constructor
      · intro hcommitted
        cases hcommitted
      · intro hbusy
        cases hbusy.2
    | some transaction =>
      have hclean : transaction.dirty = false := h.unwritten transaction htransaction
      have hsettle : (settle n transaction ((s.attempted .commit).later points timeline)).1 =
          .ok () := by
        unfold settle
        rw [if_neg (by rw [hclean]; decide)]
      exact ⟨fun _ => ⟨rfl, rfl⟩, fun _ => hsettle⟩

end Phases

end Host

end DocStore
