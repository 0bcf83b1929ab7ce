import DocStore.Proofs.Store.Admission
import DocStore.Proofs.Store.Ledger
/-!
Runs of a store. Any number of clients issue calls in any order, with sessions or without; between
them time passes, contexts are cancelled and failures are set. Each call makes one event, and the
ledger of the store goes along: it admits the event and is the ledger after it in the end.
-/
namespace DocStore

/-- Both hosts hold the same documents, transactions and sessions. Time, hooks, connection and log
may differ. -/
structure Host.SameData (s t : Host) : Prop where
  database : t.store.database = s.store.database
  tables : t.store.tables = s.store.tables
  version : t.store.version = s.store.version
  sessions : t.store.sessions = s.store.sessions

/-- Something that goes on beside the documents. -/
structure Ambience where
  change : Host → Host
  keeps : ∀ s : Host, s.SameData (change s)

inductive Call where
  | command (context : Context) (session : Option SessionNumber) (collection : String)
      (command : Command)
  | startSession (options : SessionOptions)
  | startTransaction (session : SessionNumber) (options : TransactionOptions)
  | commit (session : SessionNumber)
  | abort (session : SessionNumber)
  | endSession (session : SessionNumber)
  | meanwhile (ambience : Ambience)

namespace Store

theorem openTransaction?_some (s : Store) (n : SessionNumber) :
    s.openTransaction? (some n) = s.sessions[n]?.bind Session.transaction := rfl

theorem openTransaction?_eq (s : Store) (session : Option SessionNumber) :
    s.openTransaction? session = s.ledger.transaction? session := by
  cases session <;> rfl

theorem visibleTables_eq (s : Store) (session : Option SessionNumber) :
    s.visibleTables session = s.ledger.tablesFor session := by
  rw [visibleTables, openTransaction?_eq, Ledger.tablesFor]
  rfl

theorem ledger_modifySession (s : Store) (n : SessionNumber) (f : Session → Session) :
    (s.modifySession n f).ledger =
      s.ledger.setTransaction n (s.sessions[n]?.bind fun x => (f x).transaction) := by
  simp only [ledger, modifySession, Ledger.setTransaction, Ledger.mk.injEq, true_and]
  funext m
  rw [openTransaction?_some]
  by_cases h : m = n
  · subst h
    simp only [List.getElem?_modify_eq, Function.update_self]
    cases s.sessions[m]? <;> rfl
  · rw [List.getElem?_modify_ne _ _ (Ne.symm h), Function.update_of_ne h, openTransaction?_some]

theorem length_modifySession (s : Store) (n : SessionNumber) (f : Session → Session) :
    (s.modifySession n f).sessions.length = s.sessions.length :=
  List.length_modify _ _ _

/-- A transaction is open only in a session that has been started. -/
theorem lt_of_openTransaction? {s : Store} {n : SessionNumber} {t : Transaction}
    (h : s.openTransaction? (some n) = some t) : n < s.sessions.length := by
  rw [openTransaction?_some] at h
  obtain ⟨x, hx, _⟩ := Option.bind_eq_some_iff.1 h
  exact (List.getElem?_eq_some_iff.1 hx).1

section Write

variable (s : Store) (session : Option SessionNumber) (collection : String) (docs : List Document)

theorem write_database : (s.write session collection docs).database = s.database := by
  unfold write
  split <;> rfl

theorem write_connected : (s.write session collection docs).connected = s.connected := by
  unfold write
  split <;> rfl

theorem write_hooks : (s.write session collection docs).hooks = s.hooks := by
  unfold write
  split <;> rfl

/-- Writing ends no session. -/
theorem write_isEnded (other : Option SessionNumber) :
    (s.write session collection docs).isEnded other = s.isEnded other := by
  cases other with
  | none => rfl
  | some m =>
    unfold write
    split
    · rename_i n transaction hopen
      simp only [isEnded, modifySession]
      by_cases h : n = m
      · subst h
        rw [List.getElem?_modify_eq]
        cases s.sessions[n]? <;> rfl
      · rw [List.getElem?_modify_ne _ _ h]
    · rfl

theorem length_write :
    (s.write session collection docs).sessions.length = s.sessions.length := by
  unfold write
  split
  · exact length_modifySession _ _ _
  · rfl

end Write

theorem ledger_write (s : Store) (session : Option SessionNumber) (collection : String)
    (docs : List Document) :
    (s.write session collection docs).ledger =
      s.ledger.put session ((s.ledger.tablesFor session).set collection docs) := by
  cases session with
  | none => rfl
  | some n =>
    unfold write Ledger.put Ledger.tablesFor
    rw [openTransaction?_eq]
    cases htransaction : s.ledger.transaction? (some n) with
    | none => rfl
    | some transaction =>
      have hn : n < s.sessions.length := lt_of_openTransaction? htransaction
      simp only [ledger_modifySession, List.getElem?_eq_getElem hn]
      rfl

theorem ledger_addSession (s : Store) (options : SessionOptions) (t : Store)
    (htables : t.tables = s.tables) (hversion : t.version = s.version)
    (hsessions : t.sessions = s.sessions ++ [({ options } : Session)]) : t.ledger = s.ledger := by
  simp only [ledger, Ledger.mk.injEq]
  refine ⟨htables, hversion, ?_⟩
  funext n
  rw [openTransaction?_some, openTransaction?_some, hsessions]
  by_cases hn : n < s.sessions.length
  · rw [List.getElem?_append_left hn]
  · rw [List.getElem?_append_right (Nat.le_of_not_lt hn),
      List.getElem?_eq_none (Nat.le_of_not_lt hn)]
    cases n - s.sessions.length <;> rfl

end Store

def Call.isOpen (n : SessionNumber) (s : Host) : Bool := (s.store.openTransaction? (some n)).isSome

namespace Host

open StoreAction

variable {s t : Host}

theorem SameData.ledger (h : s.SameData t) : t.store.ledger = s.store.ledger := by
  simp only [Store.ledger, Store.openTransaction?_some, h.tables, h.version, h.sessions]

theorem sameData_attempted (operation : Operation) (points : List FailPoint)
    (timeline : Timeline) (s : Host) :
    s.SameData ((s.attempted operation).later points timeline) :=
  ⟨rfl, rfl, rfl, rfl⟩

/-- A host on which a session has no transaction any more. -/
def cleared (n : SessionNumber) (s : Host) : Host :=
  { s with store := s.store.modifySession n fun x => { x with transaction := none } }

/-- What a commit makes of the transaction that it finds. -/
def settle (n : SessionNumber) (transaction : Transaction) (s : Host) :
    Except StoreError Unit × Host :=
  if transaction.dirty then
    if s.store.version ≠ transaction.baseVersion then (.error writeConflict, s.cleared n)
    else (.ok (), { s.cleared n with store := { (s.cleared n).store with
      tables := transaction.tables, version := s.store.version + 1 } })
  else (.ok (), s.cleared n)

theorem commitTransaction_on (n : SessionNumber) (s : Host) :
    (commitTransaction n).on s = match (enter none .commit).on s with
      | (.ok _, t) =>
        match t.store.openTransaction? (some n) with
        | some transaction => settle n transaction t
        | none => (.error noTransaction, t)
      | (.error e, t) => (.error e, t) := by
  rw [commitTransaction, on_bind]
  rcases (enter none .commit).on s with ⟨e | u, t⟩
  · rfl
  · dsimp only
    rw [on_get_bind]
    cases t.store.openTransaction? (some n) with
    | none => rfl
    | some transaction =>
      simp only [clearTransaction, on_modifyStore_bind, settle]
      cases transaction.dirty with
      | false => rfl
      | true =>
        simp only [if_true, on_get_bind]
        change (if t.store.version ≠ transaction.baseVersion then _ else _ : StoreAction Unit).on
          (t.cleared n) = _
        split <;> rfl

theorem ledger_modifySession_closed {f : Session → Session} (hf : ∀ x, (f x).transaction = none)
    (n : SessionNumber) (s : Store) :
    (s.modifySession n f).ledger = s.ledger.setTransaction n none := by
  rw [Store.ledger_modifySession]
  cases s.sessions[n]? with
  | none => rfl
  | some x => exact congrArg _ (hf x)

theorem cleared_ledger (n : SessionNumber) (s : Host) :
    (s.cleared n).store.ledger = s.store.ledger.setTransaction n none :=
  ledger_modifySession_closed (fun _ => rfl) n s.store

theorem isOpen_cleared (n : SessionNumber) (s : Host) : Call.isOpen n (s.cleared n) = false := by
  change ((s.cleared n).store.ledger.transactions n).isSome = false
  rw [cleared_ledger]
  simp [Ledger.setTransaction]

end Host

variable [Regex.Engine]

namespace Call

/-- The session that a call is made in. -/
def session? : Call → Option SessionNumber
  | .command _ session _ _ => session
  | .startSession _ | .meanwhile _ => none
  | .startTransaction n _ | .commit n | .abort n | .endSession n => some n

/-- Why a command does not get as far as the documents. -/
def refusal? (context : Context) (session : Option SessionNumber) (x : Command) (s : Host) :
    Option StoreError :=
  match ((Host.admission context session x.operation).on s).1 with
  | .ok _ => none
  | .error e => some e

/-- Makes a call, and says what the store made of it. A number that no session has yet names none,
and no transaction begins in it. -/
def run (s : Host) : Call → Event × Host
  | .command context session collection x =>
    let (answer, t) := (Host.issue context session collection x).on s
    (.executed session ⟨collection, x, s.store.freshIdentity, refusal? context session x s,
      answer⟩, t)
  | .startSession options => (.idle, ((Host.startSession options).on s).2)
  | .startTransaction n options =>
    match (Host.startTransaction n options).on s with
    | (.ok _, t) => (if n < s.store.sessions.length then .began n options else .idle, t)
    | (.error _, t) => (.idle, t)
  | .commit n =>
    match (Host.commitTransaction n).on s with
    | (.ok _, t) => (.committed n, t)
    | (.error _, t) => (if isOpen n s && !isOpen n t then .conflicted n else .idle, t)
  | .abort n =>
    match (Host.abortTransaction n).on s with
    | (.ok _, t) => (.dropped n, t)
    | (.error _, t) => (.idle, t)
  | .endSession n => (.dropped n, Host.endSession n s)
  | .meanwhile ambience => (.idle, ambience.change s)

/-- Makes calls one after the other. -/
def runAll (s : Host) : List Call → List Event × Host
  | [] => ([], s)
  | c :: rest =>
    let (e, t) := c.run s
    let (events, t) := runAll t rest
    (e :: events, t)

end Call

/-- The event is what the store made of a call that led from one host to the other. -/
structure Host.Moves (s : Host) (e : Event) (t : Host) : Prop where
  admitted : s.store.ledger.Admits s.store.database e
  ledger : t.store.ledger = s.store.ledger.after s.store.database e
  database : t.store.database = s.store.database
  sessions : s.store.sessions.length ≤ t.store.sessions.length

namespace Host

open StoreAction

variable {s t : Host}

theorem SameData.moves_idle (h : s.SameData t) : s.Moves .idle t :=
  ⟨trivial, h.ledger, h.database, Nat.le_of_eq (congrArg List.length h.sessions).symm⟩

theorem SameData.moves {e : Event} {u : Host} (h : s.SameData t) (hm : t.Moves e u) :
    s.Moves e u := by
  obtain ⟨hadmits, hledger, hdatabase, hsessions⟩ := hm
  rw [h.ledger, h.database] at hadmits hledger
  rw [h.sessions] at hsessions
  exact ⟨hadmits, hledger, hdatabase.trans h.database, hsessions⟩

theorem carryOut_answer (session : Option SessionNumber) (collection : String)
    (command : Command) (s : Host) :
    (s.carryOut session collection command).1 =
      ((s.store.ledger.tablesFor session).execute s.store.database collection
        s.store.freshIdentity command).1 := by
  simp only [carryOut, Tables.execute, Store.visibleTables_eq]
  cases command.run (s.store.database ++ "." ++ collection) s.store.freshIdentity
    (s.store.ledger.tablesFor session collection) <;> rfl

theorem carryOut_ledger (session : Option SessionNumber) (collection : String)
    (command : Command) (s : Host) :
    (s.carryOut session collection command).2.store.ledger =
      if command.isWrite then
        s.store.ledger.put session ((s.store.ledger.tablesFor session).execute s.store.database
          collection s.store.freshIdentity command).2
      else s.store.ledger := by
  cases hwrite : command.isWrite with
  | false => simp [carryOut, hwrite]
  | true =>
    simp only [carryOut, hwrite, if_true, Store.visibleTables_eq]
    refine (Store.ledger_write s.store session collection _).trans ?_
    unfold Tables.execute
    cases command.run (s.store.database ++ "." ++ collection) s.store.freshIdentity
      (s.store.ledger.tablesFor session collection) with
    | ok outcome => rfl
    | error e => exact congrArg _ (Tables.set_self _ _)

theorem carryOut_database (session : Option SessionNumber) (collection : String)
    (command : Command) (s : Host) :
    (s.carryOut session collection command).2.store.database = s.store.database := by
  cases hwrite : command.isWrite with
  | false => simp [carryOut, hwrite]
  | true => simp [carryOut, hwrite, Store.write_database]

theorem carryOut_sessions (session : Option SessionNumber) (collection : String)
    (command : Command) (s : Host) :
    (s.carryOut session collection command).2.store.sessions.length =
      s.store.sessions.length := by
  cases hwrite : command.isWrite with
  | false => simp [carryOut, hwrite]
  | true => simp [carryOut, hwrite, Store.length_write]

/-- A command that is refused leaves all as it is; one that is carried out gives the answer that
the tables give, and leaves their successors if it is a write. -/
theorem issue_moves (context : Context) (session : Option SessionNumber) (collection : String)
    (command : Command) (s : Host) :
    let x := Call.command context session collection command
    s.Moves (x.run s).1 (x.run s).2 := by
  obtain ⟨checked, points, timeline, hadmission⟩ :=
    admission_on context session command.operation s
  have hsame := sameData_attempted command.operation points timeline s
  simp only [Call.run, Call.refusal?, issue_on, hadmission]
  cases checked with
  | error e => exact ⟨rfl, hsame.ledger, hsame.database, Nat.le_of_eq (by rw [hsame.sessions])⟩
  | ok u =>
    have hlength := carryOut_sessions session collection command
      ((s.attempted command.operation).later points timeline)
    exact ⟨carryOut_answer session collection command _,
      carryOut_ledger session collection command _,
      carryOut_database session collection command _, Nat.le_of_eq hlength.symm⟩

theorem startSession_moves (options : SessionOptions) (s : Host) :
    s.Moves .idle ((startSession options).on s).2 := by
  obtain ⟨answer, points, timeline, henter⟩ := enter_on none .startSession s
  have hsame := sameData_attempted .startSession points timeline s
  cases answer with
  | error e =>
    rw [startSession, on_bind_of_error henter]
    exact hsame.moves_idle
  | ok u =>
    rw [startSession, on_bind_of_ok henter, on_get_bind, on_modifyStore_bind, on_pure]
    exact ⟨trivial, Store.ledger_addSession s.store options _ rfl rfl rfl, rfl,
      by simp [later, attempted]⟩

theorem startTransaction_moves (n : SessionNumber) (options : TransactionOptions) (s : Host) :
    let x := Call.startTransaction n options
    s.Moves (x.run s).1 (x.run s).2 := by
  obtain ⟨answer, points, timeline, henter⟩ := enter_on none .startTransaction s
  have hsame := sameData_attempted .startTransaction points timeline s
  cases answer with
  | error e =>
    simp only [Call.run, startTransaction, on_bind_of_error henter]
    exact hsame.moves_idle
  | ok u =>
    simp only [Call.run, startTransaction, on_bind_of_ok henter, on_get_bind]
    have hlength := Store.length_modifySession s.store n fun x =>
      { x with transaction := some ⟨s.store.version, s.store.tables, false, options⟩ }
    cases hopen : s.store.openTransaction? (some n) with
    | some t =>
      have hopen' : ((s.attempted .startTransaction).later points timeline).store.openTransaction?
          (some n) = some t := hopen
      rw [hopen']
      exact hsame.moves_idle
    | none =>
      have hopen' : ((s.attempted .startTransaction).later points timeline).store.openTransaction?
          (some n) = none := hopen
      rw [hopen']
      by_cases hn : n < s.store.sessions.length
      · simp only [if_pos hn]
        refine ⟨hopen, ?_, rfl, Nat.le_of_eq hlength.symm⟩
        refine (Store.ledger_modifySession _ n _).trans ?_
        have hx : ((s.attempted .startTransaction).later points timeline).store.sessions[n]? =
          some s.store.sessions[n] := List.getElem?_eq_getElem hn
        rw [hx]
        rfl
      · simp only [if_neg hn]
        refine ⟨trivial, ?_, rfl, Nat.le_of_eq hlength.symm⟩
        refine (Store.ledger_modifySession _ n _).trans ?_
        have hx : ((s.attempted .startTransaction).later points timeline).store.sessions[n]? =
          none := List.getElem?_eq_none (Nat.le_of_not_lt hn)
        rw [hx]
        exact Ledger.setTransaction_of_eq hopen

/-- A commit that gets as far as the transaction ends it, with or without its tables. -/
theorem settle_moves {n : SessionNumber} {transaction : Transaction} {s : Host}
    (hopen : s.store.openTransaction? (some n) = some transaction) :
    s.Moves (if (settle n transaction s).1.isOk then .committed n else .conflicted n)
        (settle n transaction s).2 ∧
      Call.isOpen n (settle n transaction s).2 = false := by
  have hledger : s.store.ledger.transactions n = some transaction := hopen
  have hlength : s.store.sessions.length ≤ (s.cleared n).store.sessions.length :=
    Nat.le_of_eq (Store.length_modifySession _ _ _).symm
  cases hdirty : transaction.dirty with
  | false =>
    simp only [settle, hdirty, Bool.false_eq_true, if_false]
    refine ⟨⟨⟨transaction, hledger, by simp [hdirty]⟩, ?_, rfl, hlength⟩, isOpen_cleared n s⟩
    simp only [Except.isOk, Except.toBool, if_true, Ledger.after, hledger, hdirty]
    exact cleared_ledger n s
  | true =>
    simp only [settle, hdirty, if_true]
    split
    · rename_i hversion
      exact ⟨⟨⟨transaction, hledger, hdirty, hversion⟩, cleared_ledger n s, rfl, hlength⟩,
        isOpen_cleared n s⟩
    · rename_i hversion
      refine ⟨⟨⟨transaction, hledger, fun _ => Decidable.not_not.1 hversion⟩, ?_, rfl, hlength⟩,
        isOpen_cleared n s⟩
      simp only [Except.isOk, Except.toBool, if_true, Ledger.after, hledger, hdirty]
      rw [← cleared_ledger n s]
      rfl

theorem commit_moves (n : SessionNumber) (s : Host) :
    s.Moves ((Call.commit n).run s).1 ((Call.commit n).run s).2 := by
  obtain ⟨answer, points, timeline, henter⟩ := enter_on none .commit s
  have hsame := sameData_attempted .commit points timeline s
  have hisOpen : Call.isOpen n ((s.attempted .commit).later points timeline) =
    Call.isOpen n s := rfl
  simp only [Call.run, commitTransaction_on, henter]
  cases answer with
  | error e =>
    simp only [hisOpen, Bool.and_not_self]
    exact hsame.moves_idle
  | ok u =>
    cases hopen : s.store.openTransaction? (some n) with
    | none =>
      have hopen' : ((s.attempted .commit).later points timeline).store.openTransaction?
        (some n) = none := hopen
      simp only [hopen', hisOpen, Bool.and_not_self]
      exact hsame.moves_idle
    | some transaction =>
      have hopen' : ((s.attempted .commit).later points timeline).store.openTransaction?
        (some n) = some transaction := hopen
      have hstarted : Call.isOpen n s = true := by simp [Call.isOpen, hopen]
      obtain ⟨hsettled, hclosed⟩ := settle_moves hopen'
      have hmoves := hsame.moves hsettled
      simp only [hopen']
      cases hsettle : settle n transaction ((s.attempted .commit).later points timeline) with
      | mk answer t =>
        rw [hsettle] at hmoves hclosed
        cases answer with
        | error e => simpa [hclosed, hstarted, Except.isOk, Except.toBool] using hmoves
        | ok u => exact hmoves

theorem abort_moves (n : SessionNumber) (s : Host) :
    s.Moves ((Call.abort n).run s).1 ((Call.abort n).run s).2 := by
  obtain ⟨answer, points, timeline, henter⟩ := enter_on none .abort s
  have hsame := sameData_attempted .abort points timeline s
  cases answer with
  | error e =>
    simp only [Call.run, abortTransaction, on_bind_of_error henter]
    exact hsame.moves_idle
  | ok u =>
    simp only [Call.run, abortTransaction, on_bind_of_ok henter, clearTransaction]
    exact ⟨trivial, cleared_ledger n s, rfl, Nat.le_of_eq (Store.length_modifySession _ _ _).symm⟩

theorem endSession_moves (n : SessionNumber) (s : Host) :
    s.Moves (.dropped n) (endSession n s) :=
  ⟨trivial, ledger_modifySession_closed (fun _ => rfl) n s.store, rfl,
    Nat.le_of_eq (Store.length_modifySession _ _ _).symm⟩

/-- Whatever call is made, the ledger goes along with its event. -/
theorem run_moves (c : Call) (s : Host) : s.Moves (c.run s).1 (c.run s).2 := by
  cases c with
  | command context session collection x => exact issue_moves context session collection x s
  | startSession options => exact startSession_moves options s
  | startTransaction n options => exact startTransaction_moves n options s
  | commit n => exact commit_moves n s
  | abort n => exact abort_moves n s
  | endSession n => exact endSession_moves n s
  | meanwhile ambience => exact (ambience.keeps s).moves_idle

/-- A history of moves. -/
structure Evolves (s : Host) (events : List Event) (t : Host) : Prop where
  admitted : s.store.ledger.AdmitsAll s.store.database events
  ledger : t.store.ledger = s.store.ledger.afterAll s.store.database events
  database : t.store.database = s.store.database
  sessions : s.store.sessions.length ≤ t.store.sessions.length

theorem evolves_nil (s : Host) : s.Evolves [] s := ⟨trivial, rfl, rfl, Nat.le_refl _⟩

theorem Moves.evolves {s t u : Host} {e : Event} {events : List Event} (h : s.Moves e t)
    (hrest : t.Evolves events u) : s.Evolves (e :: events) u := by
  obtain ⟨hadmits, hledger, hdatabase, hsessions⟩ := hrest
  rw [h.database, h.ledger] at hadmits hledger
  exact ⟨⟨h.admitted, hadmits⟩, hledger, hdatabase.trans h.database,
    Nat.le_trans h.sessions hsessions⟩

theorem runAll_evolves (calls : List Call) (s : Host) :
    s.Evolves (Call.runAll s calls).1 (Call.runAll s calls).2 := by
  induction calls generalizing s with
  | nil => exact evolves_nil s
  | cons c rest ih => exact (run_moves c s).evolves (ih _)

end Host

end DocStore
