import DocStore.Proofs.Store.Ledger
/-!
A transaction from inside and from outside. Inside, it works on the tables that were committed when
it began, and its commands lead from these to its own tables. Outside, it cannot be noticed: without
it, all events of other sessions are admitted as well, and change the same.
-/
namespace DocStore

open Execution

/-- Events of one session's transaction are commands only. -/
def OnlyExecutes (n : SessionNumber) (events : List Event) : Prop :=
  ∀ e ∈ events, e.session? = some n → ∃ x, e = .executed (some n) x

/-- The commands issued in a session. -/
def ownBlock (n : SessionNumber) : List Event → List Execution
  | [] => []
  | .executed session x :: rest =>
    if session = some n then x :: ownBlock n rest else ownBlock n rest
  | _ :: rest => ownBlock n rest

/-- The events of all other sessions and of none. -/
def others (n : SessionNumber) (events : List Event) : List Event :=
  events.filter fun e => e.session? ≠ some n

namespace Ledger

variable {database : String} {l : Ledger} {e : Event} {n : SessionNumber} {t : Transaction}
  {block : List Execution} {base : Tables}

/-- The ledger as it is without the transaction of a session. -/
def without (l : Ledger) (n : SessionNumber) : Ledger := l.setTransaction n none

theorem without_without (l : Ledger) (n : SessionNumber) : (l.without n).without n = l.without n :=
  setTransaction_of_eq (setTransaction_self none)

theorem setTransaction_without (l : Ledger) (n : SessionNumber) (t : Option Transaction) :
    (l.setTransaction n t).without n = l.without n := by
  simp [without, setTransaction]

theorem setTransaction_comm (l : Ledger) {m : SessionNumber} (h : m ≠ n)
    (t : Option Transaction) :
    (l.without n).setTransaction m t = (l.setTransaction m t).without n := by
  simp [without, setTransaction, Function.update_comm h]

theorem without_transactions_of_ne {m : SessionNumber} (h : m ≠ n) :
    (l.without n).transactions m = l.transactions m :=
  setTransaction_of_ne h none

theorem without_transaction? {session : Option SessionNumber} (h : session ≠ some n) :
    (l.without n).transaction? session = l.transaction? session := by
  cases session with
  | none => rfl
  | some m => exact without_transactions_of_ne fun hm => h (congrArg some hm)

theorem without_tablesFor {session : Option SessionNumber} (h : session ≠ some n) :
    (l.without n).tablesFor session = l.tablesFor session := by
  rw [tablesFor, tablesFor, without_transaction? h]
  rfl

theorem others_of_own {rest : List Event} (h : e.session? = some n) :
    others n (e :: rest) = others n rest := by
  simp [others, h]

theorem others_of_ne {rest : List Event} (h : e.session? ≠ some n) :
    others n (e :: rest) = e :: others n rest := by
  simp [others, h]

theorem ownBlock_of_ne {rest : List Event} (h : e.session? ≠ some n) :
    ownBlock n (e :: rest) = ownBlock n rest := by
  cases e with
  | executed session x => exact if_neg h
  | idle | began m options | committed m | conflicted m | dropped m => rfl

variable [Regex.Engine]

/-- What is known of a transaction by its commands: they lead from the tables it was begun on to its
own, and as long as the version stays those tables are the committed ones. -/
structure Snapshot (database : String) (l : Ledger) (t : Transaction)
    (block : List Execution) (base : Tables) : Prop where
  replays : Replays database base block t.tables
  dirty : t.dirty = block.any wrote
  version : t.baseVersion ≤ l.version
  tables : l.version = t.baseVersion → l.tables = base

/-- A snapshot stays good whatever goes on in other sessions. -/
theorem Snapshot.after (h : l.Snapshot database t block base) (e : Event) :
    (l.after database e).Snapshot database t block base := by
  obtain ⟨hversion, htables⟩ := after_version database l e
  refine ⟨h.replays, h.dirty, Nat.le_trans h.version hversion, ?_⟩
  intro hbase
  have hsame : l.version = t.baseVersion := by
    have hle := h.version
    omega
  rw [htables (by omega), h.tables hsame]

/-- A command that joins a snapshot. -/
theorem Snapshot.executed {x : Execution} (h : l.Snapshot database t block base)
    (hn : l.transactions n = some t) (hx : l.Admits database (.executed (some n) x)) :
    ∃ t', (l.after database (.executed (some n) x)).transactions n = some t' ∧
      (l.after database (.executed (some n) x)).Snapshot database t' (block ++ [x]) base := by
  simp only [Admits, tablesFor_some hn] at hx
  have hreplays := h.replays.snoc hx
  simp only [Ledger.after, tablesFor_some hn]
  cases hwrote : x.wrote with
  | false =>
    rw [replay_of_not_wrote hwrote] at hreplays
    refine ⟨t, hn, hreplays, ?_, h.version, h.tables⟩
    simp [h.dirty, hwrote]
  | true =>
    simp only [if_true, put_some _ hn]
    refine ⟨_, setTransaction_self _, hreplays, ?_, h.version, h.tables⟩
    simp [hwrote]

/-- Nobody else can tell whether a session has a transaction. -/
theorem admits_without (h : e.session? ≠ some n) :
    (l.without n).Admits database e ↔ l.Admits database e := by
  have hne : ∀ {m}, e.session? = some m → m ≠ n := fun hm hmn => h (hmn ▸ hm)
  cases e with
  | idle => exact Iff.rfl
  | executed session x =>
    have hsession : session ≠ some n := h
    simp only [Admits, without_tablesFor hsession]
  | began m options => simp only [Admits, without_transactions_of_ne (hne rfl)]
  | committed m =>
    simp only [Admits, without_transactions_of_ne (hne rfl)]
    exact Iff.rfl
  | conflicted m =>
    simp only [Admits, without_transactions_of_ne (hne rfl)]
    exact Iff.rfl
  | dropped m => exact Iff.rfl

theorem after_without (h : e.session? ≠ some n) :
    (l.without n).after database e = (l.after database e).without n := by
  have hne : ∀ {m}, e.session? = some m → m ≠ n := fun hm hmn => h (hmn ▸ hm)
  cases e with
  | idle => rfl
  | executed session x =>
    have hsession : session ≠ some n := h
    simp only [Ledger.after, without_tablesFor hsession]
    cases x.wrote with
    | false => rfl
    | true =>
      cases htransaction : l.transaction? session with
      | none =>
        simp only [if_true, put_none session _ htransaction,
          put_none session _ ((without_transaction? hsession).trans htransaction)]
        rfl
      | some t =>
        obtain ⟨m, rfl, hm⟩ := Option.bind_eq_some_iff.1 htransaction
        simp only [if_true, put_some _ hm,
          put_some _ ((without_transactions_of_ne (hne rfl)).trans hm)]
        exact setTransaction_comm l (hne rfl) _
  | began m options => exact setTransaction_comm l (hne rfl) _
  | committed m =>
    simp only [Ledger.after, without_transactions_of_ne (hne rfl)]
    cases l.transactions m with
    | none => rfl
    | some t =>
      have hcomm := setTransaction_comm l (hne rfl) none
      simp only [hcomm]
      split <;> rfl
  | conflicted m => exact setTransaction_comm l (hne rfl) _
  | dropped m => exact setTransaction_comm l (hne rfl) _

/-- What a transaction does stays inside. -/
theorem after_own_without (hn : l.transactions n = some t) (x : Execution) :
    (l.after database (.executed (some n) x)).without n = l.without n := by
  simp only [Ledger.after, put_some _ hn]
  cases x.wrote with
  | false => rfl
  | true => exact setTransaction_without l n _

/-- While a session only issues commands, its transaction stays open. -/
theorem Snapshot.afterAll {events : List Event} (h : l.Snapshot database t block base)
    (hn : l.transactions n = some t) (hadmits : l.AdmitsAll database events)
    (hevents : OnlyExecutes n events) :
    ∃ t', (l.afterAll database events).transactions n = some t' ∧
      (l.afterAll database events).Snapshot database t' (block ++ ownBlock n events) base := by
  induction events generalizing l t block with
  | nil => exact ⟨t, hn, by rwa [ownBlock, List.append_nil]⟩
  | cons e rest ih =>
    have hrest : OnlyExecutes n rest := fun e he => hevents e (List.mem_cons_of_mem _ he)
    by_cases he : e.session? = some n
    · obtain ⟨x, rfl⟩ := hevents e List.mem_cons_self he
      obtain ⟨t', ht', hsnapshot⟩ := h.executed hn hadmits.1
      have hown : ownBlock n (.executed (some n) x :: rest) = x :: ownBlock n rest := if_pos rfl
      rw [hown, List.append_cons]
      exact ih hsnapshot ht' hadmits.2 hrest
    · rw [ownBlock_of_ne he]
      exact ih (h.after e) (by rw [after_transactions_of_ne he, hn]) hadmits.2 hrest

/-- The events of the others take place in the same way without the transaction. -/
theorem afterAll_without {events : List Event} (hn : l.transactions n = some t)
    (hadmits : l.AdmitsAll database events) (hevents : OnlyExecutes n events) :
    (l.without n).AdmitsAll database (others n events) ∧
      (l.without n).afterAll database (others n events) =
        (l.afterAll database events).without n := by
  induction events generalizing l t with
  | nil => exact ⟨trivial, rfl⟩
  | cons e rest ih =>
    have hrest : OnlyExecutes n rest := fun e he => hevents e (List.mem_cons_of_mem _ he)
    by_cases he : e.session? = some n
    · obtain ⟨x, rfl⟩ := hevents e List.mem_cons_self he
      obtain ⟨t', ht'⟩ : ∃ t',
          (l.after database (.executed (some n) x)).transactions n = some t' := by
        simp only [Ledger.after, put_some _ hn]
        split
        · exact ⟨_, setTransaction_self _⟩
        · exact ⟨t, hn⟩
      have hsame := ih ht' hadmits.2 hrest
      rw [after_own_without hn] at hsame
      rwa [others_of_own he]
    · obtain ⟨hfirst, hadmits⟩ := hadmits
      have hsame := ih (by rw [after_transactions_of_ne he, hn]) hadmits hrest
      rw [← after_without he] at hsame
      rw [others_of_ne he]
      exact ⟨⟨(admits_without he).2 hfirst, hsame.1⟩, hsame.2⟩

end Ledger

end DocStore
