import DocStore.Proofs.Store.History
import DocStore.Proofs.Store.Snapshot
import DocStore.Regex.Default
/-!
Strict serializability. In the serial history of a run, a transaction that was committed after it
wrote stands at its commit, one that was committed without a write stands at its start, and all
others are dropped; a command outside of transactions stands where it was issued. Replaying the
serial history on the tables that the run started from gives each command the answer that it had in
the run, and leads to the committed tables in which the run ended.
-/
namespace DocStore

section

open Execution

/-- The commands so far of the transaction that is open in a session, given the events before, the
latest first. -/
def openBlock (n : SessionNumber) : List Event → Option (List Execution)
  | [] => none
  | e :: past =>
    if e.session? = some n then
      match e with
      | .began _ _ => some []
      | .executed _ x => (openBlock n past).map (· ++ [x])
      | _ => none
    else openBlock n past

/-- The commands of the transaction that a session has begun, if it will be committed. -/
def committedBlock (n : SessionNumber) : List Event → Option (List Execution)
  | [] => none
  | e :: rest =>
    if e.session? = some n then
      match e with
      | .committed _ => some []
      | .executed _ x => (committedBlock n rest).map (x :: ·)
      | _ => none
    else committedBlock n rest

/-- What the serial history holds in the place of an event, given the events before it, the latest
first, and the events after it. -/
def Event.block (past rest : List Event) : Event → List Execution
  | .executed session x => if (session.bind (openBlock · past)).isSome then [] else [x]
  | .began n _ => ((committedBlock n rest).filter fun block => !block.any wrote).getD []
  | .committed n => ((openBlock n past).filter fun block => block.any wrote).getD []
  | .idle | .conflicted _ | .dropped _ => []

def serialFrom (past : List Event) : List Event → List Execution
  | [] => []
  | e :: rest => e.block past rest ++ serialFrom (e :: past) rest

/-- The serial history of a run. -/
def serial (events : List Event) : List Execution := serialFrom [] events

variable [Regex.Engine]

/-- The open transactions are those that the past has begun. -/
def Ledger.Follows (database : String) (past : List Event) (l : Ledger) : Prop :=
  ∀ n, match l.transactions n with
    | none => openBlock n past = none
    | some t => ∃ block base, openBlock n past = some block ∧ l.Snapshot database t block base

namespace Ledger

variable {database : String} {l : Ledger} {past rest : List Event} {e : Event} {n : SessionNumber}
  {t : Transaction}

theorem Follows.closed (h : l.Follows database past) (hn : l.transactions n = none) :
    openBlock n past = none := by
  have hclosed := h n
  rwa [hn] at hclosed

theorem Follows.opened (h : l.Follows database past) (hn : l.transactions n = some t) :
    ∃ block base, openBlock n past = some block ∧ l.Snapshot database t block base := by
  have hopened := h n
  rwa [hn] at hopened

theorem follows_nil (h : ∀ n, l.transactions n = none) : l.Follows database [] := by
  intro n
  rw [h n]
  rfl

omit [Regex.Engine] in
theorem openBlock_of_ne (h : e.session? ≠ some n) : openBlock n (e :: past) = openBlock n past :=
  if_neg h

omit [Regex.Engine] in
theorem committedBlock_of_ne (h : e.session? ≠ some n) :
    committedBlock n (e :: rest) = committedBlock n rest :=
  if_neg h

omit [Regex.Engine] in
theorem committedBlock_executed (x : Execution) :
    committedBlock n (.executed (some n) x :: rest) = (committedBlock n rest).map (x :: ·) :=
  if_pos rfl

/-- Each event that is admitted keeps the open transactions in line with the past. -/
theorem Follows.after (h : l.Follows database past) (hadmits : l.Admits database e) :
    (l.after database e).Follows database (e :: past) := by
  intro n
  by_cases hn : e.session? = some n
  · have hended : (l.after database e).transactions n = none → openBlock n (e :: past) = none →
        match (l.after database e).transactions n with
        | none => openBlock n (e :: past) = none
        | some t => ∃ block base, openBlock n (e :: past) = some block ∧
            (l.after database e).Snapshot database t block base := by
      intro htransaction hblock
      rw [htransaction]
      exact hblock
    cases e with
    | idle => cases hn
    | executed session x =>
      cases hn
      have hblock : openBlock n (.executed (some n) x :: past) =
        (openBlock n past).map (· ++ [x]) := if_pos rfl
      cases htransaction : l.transactions n with
      | none =>
        apply hended
        · simp only [Ledger.after, put_none (some n) _ htransaction]
          split <;> exact htransaction
        · rw [hblock, h.closed htransaction]
          rfl
      | some t =>
        obtain ⟨block, base, hpast, hsnapshot⟩ := h.opened htransaction
        obtain ⟨t', ht', hsnapshot'⟩ := hsnapshot.executed htransaction hadmits
        rw [ht']
        exact ⟨block ++ [x], base, by rw [hblock, hpast]; rfl, hsnapshot'⟩
    | began m options =>
      cases hn
      simp only [Ledger.after, setTransaction_self]
      exact ⟨[], l.tables, if_pos rfl, replays_nil, rfl, Nat.le_refl _, fun _ => rfl⟩
    | committed m =>
      cases hn
      obtain ⟨t, ht, _⟩ := hadmits
      apply hended _ (if_pos rfl)
      simp only [Ledger.after, ht]
      split
      · exact setTransaction_self _
      · exact setTransaction_self _
    | conflicted m =>
      cases hn
      exact hended (setTransaction_self _) (if_pos rfl)
    | dropped m =>
      cases hn
      exact hended (setTransaction_self _) (if_pos rfl)
  · rw [after_transactions_of_ne hn, openBlock_of_ne hn]
    cases htransaction : l.transactions n with
    | none => exact h.closed htransaction
    | some t =>
      obtain ⟨block, base, hblock, hsnapshot⟩ := h.opened htransaction
      exact ⟨block, base, hblock, hsnapshot.after e⟩

/-- The commands of a transaction that will be committed without having written replay on the tables
that it has now. -/
theorem replays_committedBlock {block : List Execution} (hn : l.transactions n = some t)
    (hadmits : l.AdmitsAll database rest) (hblock : committedBlock n rest = some block)
    (hread : block.any wrote = false) : Replays database t.tables block t.tables := by
  induction rest generalizing l block with
  | nil => cases hblock
  | cons e rest ih =>
    obtain ⟨hfirst, hrest⟩ := hadmits
    by_cases he : e.session? = some n
    · cases e with
      | idle => cases he
      | executed session x =>
        cases he
        rw [committedBlock_executed] at hblock
        obtain ⟨later, hlater, rfl⟩ := Option.map_eq_some_iff.1 hblock
        simp only [List.any_cons, Bool.or_eq_false_iff] at hread
        simp only [Admits, tablesFor_some hn] at hfirst
        have hkeeps : l.after database (.executed (some n) x) = l := by
          simp [Ledger.after, hread.1]
        rw [hkeeps] at hrest
        apply replays_cons hfirst
        rw [replay_of_not_wrote hread.1]
        exact ih hn hrest hlater hread.2
      | committed m =>
        have hnil : committedBlock n (.committed m :: rest) = some [] := if_pos he
        cases hnil.symm.trans hblock
        exact replays_nil
      | began m options => cases (if_pos he).symm.trans hblock
      | conflicted m => cases (if_pos he).symm.trans hblock
      | dropped m => cases (if_pos he).symm.trans hblock
    · rw [committedBlock_of_ne he] at hblock
      exact ih (by rw [after_transactions_of_ne he, hn]) hrest hblock hread

/-- What stands in the place of one event leads to the committed tables after it. -/
theorem Follows.replays_block (h : l.Follows database past) (hadmits : l.Admits database e)
    (hrest : (l.after database e).AdmitsAll database rest) :
    Replays database l.tables (e.block past rest) (l.after database e).tables := by
  cases e with
  | idle => exact replays_nil
  | executed session x =>
    cases htransaction : l.transaction? session with
    | none =>
      have hblock : session.bind (openBlock · past) = none := by
        cases session with
        | none => rfl
        | some n => exact h.closed htransaction
      simp only [Admits, tablesFor_none htransaction] at hadmits
      simp only [Event.block, hblock, Ledger.after, tablesFor_none htransaction,
        put_none session _ htransaction]
      have hreplays := replays_singleton hadmits
      cases hwrote : x.wrote with
      | false => rwa [replay_of_not_wrote hwrote] at hreplays
      | true => exact hreplays
    | some t =>
      obtain ⟨n, rfl, hn⟩ := Option.bind_eq_some_iff.1 htransaction
      obtain ⟨block, base, hpast, _⟩ := h.opened hn
      have hblock : (some n).bind (openBlock · past) = some block := hpast
      simp only [Event.block, hblock, Option.isSome_some, if_true, Ledger.after, put_some _ hn]
      split
      · exact replays_nil
      · exact replays_nil
  | began n options =>
    simp only [Event.block]
    cases hblock : committedBlock n rest with
    | none => exact replays_nil
    | some block =>
      cases hread : block.any wrote with
      | true =>
        simp only [Option.filter_some, hread]
        exact replays_nil
      | false =>
        simp only [Option.filter_some, hread]
        exact replays_committedBlock (setTransaction_self _) hrest hblock hread
  | committed n =>
    obtain ⟨t, ht, hversion⟩ := hadmits
    obtain ⟨block, base, hpast, hsnapshot⟩ := h.opened ht
    simp only [Event.block, hpast, Ledger.after, ht]
    cases hdirty : t.dirty with
    | false =>
      rw [hsnapshot.dirty] at hdirty
      simp only [Option.filter_some, hdirty]
      exact replays_nil
    | true =>
      have hbase := hsnapshot.tables (hversion hdirty)
      rw [hsnapshot.dirty] at hdirty
      simp only [Option.filter_some, hdirty, hbase]
      exact hsnapshot.replays
  | conflicted n => exact replays_nil
  | dropped n => exact replays_nil

theorem Follows.replays_serialFrom (h : l.Follows database past)
    (hadmits : l.AdmitsAll database rest) :
    Replays database l.tables (serialFrom past rest) (l.afterAll database rest).tables := by
  induction rest generalizing l past with
  | nil => exact replays_nil
  | cons e rest ih =>
    exact (h.replays_block hadmits.1 hadmits.2).append (ih (h.after hadmits.1) hadmits.2)

end Ledger

/-- Every run that starts without open transactions is strictly serializable. -/
theorem runAll_serializable (s : Host) (calls : List Call)
    (hquiet : ∀ n, s.store.openTransaction? (some n) = none) :
    Replays s.store.database s.store.tables (serial (Call.runAll s calls).1)
      (Call.runAll s calls).2.store.tables := by
  have hevolves := Host.runAll_evolves calls s
  have hfollows : s.store.ledger.Follows s.store.database [] := Ledger.follows_nil hquiet
  have htables := congrArg Ledger.tables hevolves.ledger
  change (Call.runAll s calls).2.store.tables = _ at htables
  rw [htables]
  exact hfollows.replays_serialFrom hevolves.admitted

end

open scoped Regex
open Execution

/-- Two sessions write at once. The second one commits first, and the first one is dropped: what it
inserted and read is not in the serial history. -/
theorem runAll_serializable_conflict :
    let s : Host := { store := { database := "d" }, timeline := { now := 0 } }
    let insert (session : Option SessionNumber) (name : String) : Call :=
      .command .background session "c" (.insert [("name", .string name)])
    let calls := [.startSession {}, .startSession {}, .startTransaction 0 {},
      .startTransaction 1 {}, insert (some 0) "a", insert (some 1) "b", .commit 1, insert none "e",
      .command .background (some 0) "c" (.count []), .commit 0]
    (∀ n, s.store.openTransaction? (some n) = none) ∧
      (serial (Call.runAll s calls).1).map (fun x => x.identity) = [⟨1⟩, ⟨2⟩] ∧
      Replays s.store.database s.store.tables (serial (Call.runAll s calls).1)
        (Call.runAll s calls).2.store.tables :=
  ⟨fun _ => rfl, by decide +kernel, runAll_serializable _ _ fun _ => rfl⟩

end DocStore
