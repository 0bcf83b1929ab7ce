import DocStore.Store.Calls
import Mathlib.Logic.Function.Basic
/-!
Histories of a store. A ledger holds what commands and transactions read and write: the committed
tables with their version and the open transactions. An event says what the store made of one call,
with the answer it gave; a ledger admits an event if it gives that answer itself, and goes on to the
ledger after it. Replaying executions on tables needs no transactions at all.
-/
namespace DocStore

theorem exists_of_bind_eq_ok {x : Except ε α} {f : α → Except ε β} {b : β}
    (h : (x >>= f) = .ok b) : ∃ a, x = .ok a ∧ f a = .ok b := by
  cases x with
  | error e => cases h
  | ok a => exact ⟨a, rfl, h⟩

/-- What commands and transactions read and write of a store. -/
structure Ledger where
  tables : Tables
  version : Nat
  transactions : SessionNumber → Option Transaction

def Store.ledger (s : Store) : Ledger :=
  ⟨s.tables, s.version, fun n => s.openTransaction? (some n)⟩

namespace Ledger

def setTransaction (l : Ledger) (n : SessionNumber) (t : Option Transaction) : Ledger :=
  { l with transactions := Function.update l.transactions n t }

theorem setTransaction_of_eq {l : Ledger} {n : SessionNumber} {t : Option Transaction}
    (h : l.transactions n = t) : l.setTransaction n t = l := by
  rw [← h, setTransaction, Function.update_eq_self]

def transaction? (l : Ledger) (session : Option SessionNumber) : Option Transaction :=
  session.bind l.transactions

/-- The tables that a command issued in a session works on. -/
def tablesFor (l : Ledger) (session : Option SessionNumber) : Tables :=
  match l.transaction? session with
  | some t => t.tables
  | none => l.tables

/-- Puts tables where a command issued in a session writes them. -/
def put (l : Ledger) (session : Option SessionNumber) (tables : Tables) : Ledger :=
  match session, l.transaction? session with
  | some n, some t => l.setTransaction n (some { t with tables, dirty := true })
  | _, _ => { l with tables, version := l.version + 1 }

variable {l : Ledger} {n : SessionNumber}

theorem setTransaction_of_ne {m : SessionNumber} (h : m ≠ n) (t : Option Transaction) :
    (l.setTransaction n t).transactions m = l.transactions m :=
  Function.update_of_ne h _ _

@[simp] theorem setTransaction_self (t : Option Transaction) :
    (l.setTransaction n t).transactions n = t :=
  Function.update_self _ _ _

theorem put_none (session : Option SessionNumber) (tables : Tables)
    (h : l.transaction? session = none) :
    l.put session tables = { l with tables, version := l.version + 1 } := by
  unfold put
  rw [h]
  cases session <;> rfl

theorem put_some {t : Transaction} (tables : Tables) (h : l.transactions n = some t) :
    l.put (some n) tables = l.setTransaction n (some { t with tables, dirty := true }) := by
  have htransaction : l.transaction? (some n) = some t := h
  simp only [put, htransaction]

theorem tablesFor_none {session : Option SessionNumber} (h : l.transaction? session = none) :
    l.tablesFor session = l.tables := by
  rw [tablesFor, h]

theorem tablesFor_some {t : Transaction} (h : l.transactions n = some t) :
    l.tablesFor (some n) = t.tables := by
  have htransaction : l.transaction? (some n) = some t := h
  rw [tablesFor, htransaction]

theorem tablesFor_setTransaction_of_ne {session : Option SessionNumber} (h : session ≠ some n)
    (t : Option Transaction) : (l.setTransaction n t).tablesFor session = l.tablesFor session := by
  cases session with
  | none => rfl
  | some m =>
    have hm : m ≠ n := fun heq => h (congrArg some heq)
    have hsame : (l.setTransaction n t).transaction? (some m) = l.transaction? (some m) :=
      setTransaction_of_ne hm t
    rw [tablesFor, tablesFor, hsame]
    rfl

theorem tablesFor_put_self (l : Ledger) (session : Option SessionNumber) (tables : Tables) :
    (l.put session tables).tablesFor session = tables := by
  cases hsession : l.transaction? session with
  | none =>
    rw [put_none session _ hsession]
    exact tablesFor_none hsession
  | some t =>
    obtain ⟨n, rfl, hn⟩ := Option.bind_eq_some_iff.1 hsession
    rw [put_some _ hn]
    exact tablesFor_some (setTransaction_self _)

end Ledger

theorem Tables.set_self (t : Tables) (collection : String) : t.set collection (t collection) = t := by
  funext name
  by_cases h : name = collection
  · simp [set, h]
  · simp [set, h]

variable [Regex.Engine]

namespace Tables

/-- Carries out a command on one of the collections of a database. -/
def execute (database : String) (t : Tables) (collection : String) (identity : ObjectId)
    (command : Command) : Except StoreError Reply × Tables :=
  match command.run (database ++ "." ++ collection) identity (t collection) with
  | .ok (reply, docs) => (.ok reply, t.set collection docs)
  | .error e => (.error e, t)

end Tables

theorem Command.run_of_read {command : Command} (h : command.isWrite = false)
    {collection : String} {identity : ObjectId} {docs kept : List Document} {reply : Reply}
    (hrun : command.run collection identity docs = .ok (reply, kept)) : kept = docs := by
  cases command with
  | count filter | find filter options | findOne filter options =>
    obtain ⟨_, _, hpure⟩ := exists_of_bind_eq_ok hrun
    cases hpure
    rfl
  | insert d | replace filter replacement | update filter changes | delete filter =>
    simp [isWrite] at h

theorem Tables.execute_of_read {command : Command} (h : command.isWrite = false)
    (database : String) (t : Tables) (collection : String) (identity : ObjectId) :
    (t.execute database collection identity command).2 = t := by
  unfold execute
  split
  · rename_i hrun
    rw [Command.run_of_read h hrun, set_self]
  · rfl

/-- One issue of a command: the identity that an insertion may take, the refusal that kept it from
the documents, if any, and the answer. -/
structure Execution where
  collection : String
  command : Command
  identity : ObjectId
  refusal : Option StoreError
  answer : Except StoreError Reply

namespace Execution

/-- Whether a write was carried out. A refused command is not. -/
def wrote (x : Execution) : Bool := x.refusal.isNone && x.command.isWrite

/-- What the same issue answers on given tables, and the tables after it. -/
def replay (database : String) (x : Execution) (t : Tables) : Except StoreError Reply × Tables :=
  match x.refusal with
  | some e => (.error e, t)
  | none => t.execute database x.collection x.identity x.command

theorem replay_of_not_wrote {x : Execution} (h : x.wrote = false) (database : String)
    (t : Tables) : (x.replay database t).2 = t := by
  unfold replay
  split
  · rfl
  · rename_i hrefusal
    apply Tables.execute_of_read
    simpa [wrote, hrefusal] using h

/-- Answers of executions one after the other, and the tables in the end. -/
def replayAll (database : String) : List Execution → Tables →
    List (Except StoreError Reply) × Tables
  | [], t => ([], t)
  | x :: rest, t =>
    let (answer, t) := x.replay database t
    let (answers, t) := replayAll database rest t
    (answer :: answers, t)

/-- Replaying a block on some tables gives the answers recorded in it, and leads to others. -/
def Replays (database : String) (t : Tables) (block : List Execution) (t' : Tables) : Prop :=
  replayAll database block t = (block.map answer, t')

variable {database : String} {t t' t'' : Tables} {x : Execution} {block block' : List Execution}

theorem replays_nil : Replays database t [] t := rfl

theorem replays_cons (hx : x.answer = (x.replay database t).1)
    (h : Replays database (x.replay database t).2 block t') :
    Replays database t (x :: block) t' := by
  unfold Replays at h ⊢
  simp only [replayAll, h, List.map_cons, hx]

theorem Replays.append (h : Replays database t block t') (h' : Replays database t' block' t'') :
    Replays database t (block ++ block') t'' := by
  induction block generalizing t with
  | nil =>
    have heq : t = t' := congrArg Prod.snd h
    subst heq
    exact h'
  | cons x rest ih =>
    simp only [Replays, replayAll, List.map_cons, Prod.mk.injEq, List.cons.injEq] at h
    obtain ⟨⟨hx, hanswers⟩, htables⟩ := h
    exact replays_cons hx.symm (ih (Prod.ext hanswers htables))

theorem replays_singleton (hx : x.answer = (x.replay database t).1) :
    Replays database t [x] (x.replay database t).2 :=
  replays_cons hx replays_nil

theorem Replays.snoc (h : Replays database t block t') (hx : x.answer = (x.replay database t').1) :
    Replays database t (block ++ [x]) (x.replay database t').2 :=
  h.append (replays_singleton hx)

end Execution

/-- What a store made of a call. A transaction is dropped when it is aborted or its session ends,
and a commit conflicts when the committed tables were written since the transaction began. -/
inductive Event where
  | idle
  | executed (session : Option SessionNumber) (execution : Execution)
  | began (session : SessionNumber) (options : TransactionOptions)
  | committed (session : SessionNumber)
  | conflicted (session : SessionNumber)
  | dropped (session : SessionNumber)

/-- The session that an event belongs to. -/
def Event.session? : Event → Option SessionNumber
  | .idle => none
  | .executed session _ => session
  | .began n _ | .committed n | .conflicted n | .dropped n => some n

namespace Ledger

variable {database : String} {l : Ledger} {e : Event} {n : SessionNumber}

def Admits (database : String) (l : Ledger) : Event → Prop
  | .idle | .dropped _ => True
  | .executed session x => x.answer = (x.replay database (l.tablesFor session)).1
  | .began n _ => l.transactions n = none
  | .committed n =>
    ∃ t, l.transactions n = some t ∧ (t.dirty = true → l.version = t.baseVersion)
  | .conflicted n =>
    ∃ t, l.transactions n = some t ∧ t.dirty = true ∧ l.version ≠ t.baseVersion

def after (database : String) (l : Ledger) : Event → Ledger
  | .idle => l
  | .executed session x =>
    if x.wrote then l.put session (x.replay database (l.tablesFor session)).2 else l
  | .began n options => l.setTransaction n (some ⟨l.version, l.tables, false, options⟩)
  | .committed n =>
    match l.transactions n with
    | some t =>
      if t.dirty then { l.setTransaction n none with tables := t.tables, version := l.version + 1 }
      else l.setTransaction n none
    | none => l
  | .conflicted n | .dropped n => l.setTransaction n none

def afterAll (database : String) (l : Ledger) (events : List Event) : Ledger :=
  events.foldl (after database) l

/-- Each event of a history is admitted where it takes place. -/
def AdmitsAll (database : String) (l : Ledger) : List Event → Prop
  | [] => True
  | e :: rest => l.Admits database e ∧ (l.after database e).AdmitsAll database rest

/-- What is seen in the session of a command is what the command has left there. -/
theorem tablesFor_executed_self (database : String) (l : Ledger) (session : Option SessionNumber)
    (x : Execution) :
    (l.after database (.executed session x)).tablesFor session =
      (x.replay database (l.tablesFor session)).2 := by
  simp only [after]
  cases hwrote : x.wrote with
  | false => exact (Execution.replay_of_not_wrote hwrote database _).symm
  | true =>
    simp only [if_true]
    exact tablesFor_put_self l session _

/-- A command changes what is seen elsewhere only where the same is seen as in its own session. -/
theorem tablesFor_executed (database : String) (l : Ledger) (session view : Option SessionNumber)
    (x : Execution) :
    (l.after database (.executed session x)).tablesFor view = l.tablesFor view ∨
      (l.tablesFor view = l.tablesFor session ∧
        (l.after database (.executed session x)).tablesFor view =
          (l.after database (.executed session x)).tablesFor session) := by
  simp only [after]
  cases x.wrote with
  | false => exact .inl rfl
  | true =>
    simp only [if_true]
    cases hsession : l.transaction? session with
    | none =>
      rw [put_none session _ hsession]
      cases hview : l.transaction? view with
      | none =>
        let raised : Ledger := { l with
          tables := (x.replay database (l.tablesFor session)).2, version := l.version + 1 }
        have hview' : raised.transaction? view = none := hview
        have hsession' : raised.transaction? session = none := hsession
        exact .inr ⟨(tablesFor_none hview).trans (tablesFor_none hsession).symm,
          (tablesFor_none hview').trans (tablesFor_none hsession').symm⟩
      | some t =>
        left
        obtain ⟨n, rfl, hn⟩ := Option.bind_eq_some_iff.1 hview
        rw [tablesFor_some hn]
        exact tablesFor_some hn
    | some t =>
      obtain ⟨n, rfl, hn⟩ := Option.bind_eq_some_iff.1 hsession
      rw [put_some _ hn]
      by_cases hview : view = some n
      · subst hview
        exact .inr ⟨rfl, rfl⟩
      · exact .inl (tablesFor_setTransaction_of_ne hview _)

/-- An event touches the transaction of its own session only. -/
theorem after_transactions_of_ne (h : e.session? ≠ some n) :
    (l.after database e).transactions n = l.transactions n := by
  have hne : ∀ {m}, e.session? = some m → n ≠ m := fun hm hnm => h (hnm ▸ hm)
  cases e with
  | idle => rfl
  | executed session x =>
    simp only [after]
    split
    · cases htransaction : l.transaction? session with
      | none => rw [put_none session _ htransaction]
      | some t =>
        obtain ⟨m, rfl, hm⟩ := Option.bind_eq_some_iff.1 htransaction
        rw [put_some _ hm, setTransaction_of_ne (hne rfl)]
    · rfl
  | began m options => exact setTransaction_of_ne (hne rfl) _
  | committed m =>
    simp only [after]
    split
    · split
      · exact setTransaction_of_ne (hne rfl) _
      · exact setTransaction_of_ne (hne rfl) _
    · rfl
  | conflicted m => exact setTransaction_of_ne (hne rfl) _
  | dropped m => exact setTransaction_of_ne (hne rfl) _

/-- The committed tables change only with their version, and versions rise. -/
theorem after_version (database : String) (l : Ledger) (e : Event) :
    l.version ≤ (l.after database e).version ∧
      ((l.after database e).version = l.version → (l.after database e).tables = l.tables) := by
  have hkeep : ∀ {l' : Ledger}, l'.version = l.version → l'.tables = l.tables →
      l.version ≤ l'.version ∧ (l'.version = l.version → l'.tables = l.tables) :=
    fun hversion htables => ⟨Nat.le_of_eq hversion.symm, fun _ => htables⟩
  have hraise : ∀ {l' : Ledger}, l'.version = l.version + 1 →
      l.version ≤ l'.version ∧ (l'.version = l.version → l'.tables = l.tables) :=
    fun hversion => ⟨by omega, fun h => by omega⟩
  cases e with
  | idle => exact hkeep rfl rfl
  | executed session x =>
    simp only [after]
    split
    · cases htransaction : l.transaction? session with
      | none =>
        rw [put_none session _ htransaction]
        exact hraise rfl
      | some t =>
        obtain ⟨m, rfl, hm⟩ := Option.bind_eq_some_iff.1 htransaction
        rw [put_some _ hm]
        exact hkeep rfl rfl
    · exact hkeep rfl rfl
  | began m options => exact hkeep rfl rfl
  | committed m =>
    simp only [after]
    split
    · split
      · exact hraise rfl
      · exact hkeep rfl rfl
    · exact hkeep rfl rfl
  | conflicted m => exact hkeep rfl rfl
  | dropped m => exact hkeep rfl rfl

end Ledger

end DocStore
