import DocStore.Proofs.Collection.Identity
import DocStore.Proofs.Store.AllOrNothing
import DocStore.Proofs.Store.Serializability
import DocStore.Proofs.Store.Writes
import DocStore.Regex.Default
/-!
Conflicts of commits. The version of the committed tables rises with each write that is carried out
outside of transactions, whatever comes of it, and with each commit of a transaction that wrote. A
transaction that wrote conflicts exactly if the version has risen since it began. So commands that
are refused or only read never cause a conflict, and a change of the committed tables always does;
but a write that fails, matches nothing or changes nothing causes one as well.
-/
namespace DocStore

section

open Execution

variable [Regex.Engine]

namespace Ledger

variable {database : String} {l : Ledger} {past rest : List Event} {e : Event} {n : SessionNumber}
  {t : Transaction}

/-- One event raises the version exactly if a write stands in its place in the serial history. -/
theorem Follows.version_after (h : l.Follows database past) (hadmits : l.Admits database e)
    (rest : List Event) :
    (l.after database e).version = l.version ↔ (e.block past rest).any wrote = false := by
  cases e with
  | idle => exact ⟨fun _ => rfl, fun _ => rfl⟩
  | executed session x =>
    cases htransaction : l.transaction? session with
    | none =>
      have hblock : session.bind (openBlock · past) = none := by
        cases session with
        | none => rfl
        | some n => exact h.closed htransaction
      simp only [Event.block, hblock, Ledger.after, put_none session _ htransaction]
      cases hwrote : x.wrote with
      | false => simp [hwrote]
      | true => simp [hwrote]
    | some t =>
      obtain ⟨n, rfl, hn⟩ := Option.bind_eq_some_iff.1 htransaction
      obtain ⟨block, base, hpast, -⟩ := h.opened hn
      have hblock : (some n).bind (openBlock · past) = some block := hpast
      simp only [Event.block, hblock, Option.isSome_some, if_true, Ledger.after, put_some _ hn]
      split
      · exact ⟨fun _ => rfl, fun _ => rfl⟩
      · exact ⟨fun _ => rfl, fun _ => rfl⟩
  | began n options =>
    refine ⟨fun _ => ?_, fun _ => rfl⟩
    simp only [Event.block]
    cases hblock : committedBlock n rest with
    | none => rfl
    | some block =>
      cases hread : block.any wrote with
      | true => simp [Option.filter_some, hread]
      | false => simp [Option.filter_some, hread]
  | committed n =>
    obtain ⟨t, ht, -⟩ := hadmits
    obtain ⟨block, base, hpast, hsnapshot⟩ := h.opened ht
    simp only [Event.block, hpast, Ledger.after, ht]
    cases hdirty : t.dirty with
    | false =>
      rw [hsnapshot.dirty] at hdirty
      simp only [Option.filter_some, hdirty]
      exact ⟨fun _ => rfl, fun _ => rfl⟩
    | true =>
      rw [hsnapshot.dirty] at hdirty
      simp [Option.filter_some, hdirty]
  | conflicted n => exact ⟨fun _ => rfl, fun _ => rfl⟩
  | dropped n => exact ⟨fun _ => rfl, fun _ => rfl⟩

theorem version_le_afterAll (database : String) (l : Ledger) (events : List Event) :
    l.version ≤ (l.afterAll database events).version := by
  induction events generalizing l with
  | nil => exact Nat.le_refl _
  | cons e rest ih => exact Nat.le_trans (after_version database l e).1 (ih _)

/-- A run raises the version exactly if its serial history has a write. -/
theorem Follows.version_afterAll {events : List Event} (h : l.Follows database past)
    (hadmits : l.AdmitsAll database events) :
    (l.afterAll database events).version = l.version ↔
      (serialFrom past events).any wrote = false := by
  induction events generalizing l past with
  | nil => exact ⟨fun _ => rfl, fun _ => rfl⟩
  | cons e rest ih =>
    have hfirst := h.version_after hadmits.1 rest
    have hrest := ih (h.after hadmits.1) hadmits.2
    have hle := (after_version database l e).1
    have hle' := version_le_afterAll database (l.after database e) rest
    rw [serialFrom, List.any_append, Bool.or_eq_false_iff, ← hfirst, ← hrest]
    change ((l.after database e).afterAll database rest).version = _ ↔ _
    omega

/-- While the version stays, so do the committed tables. -/
theorem tables_afterAll {events : List Event}
    (h : (l.afterAll database events).version = l.version) :
    (l.afterAll database events).tables = l.tables := by
  induction events generalizing l with
  | nil => rfl
  | cons e rest ih =>
    obtain ⟨hle, htables⟩ := after_version database l e
    have hle' := version_le_afterAll database (l.after database e) rest
    change ((l.after database e).afterAll database rest).version = _ at h
    have hfirst : (l.after database e).version = l.version := by omega
    change ((l.after database e).afterAll database rest).tables = _
    rw [ih (by omega), htables hfirst]

/-- While a session only issues commands, its transaction stays open on the version that it began
with, and notes whether one of them wrote. -/
theorem exists_transaction_afterAll (database : String) {events : List Event}
    (hn : l.transactions n = some t) (hevents : OnlyExecutes n events) :
    ∃ t', (l.afterAll database events).transactions n = some t' ∧
      t'.baseVersion = t.baseVersion ∧
      t'.dirty = (t.dirty || (ownBlock n events).any wrote) := by
  induction events generalizing l t with
  | nil => exact ⟨t, hn, rfl, (Bool.or_false _).symm⟩
  | cons e rest ih =>
    have hrest : OnlyExecutes n rest := fun e he => hevents e (List.mem_cons_of_mem _ he)
    by_cases he : e.session? = some n
    · obtain ⟨x, rfl⟩ := hevents e List.mem_cons_self he
      have hown : ownBlock n (.executed (some n) x :: rest) = x :: ownBlock n rest := if_pos rfl
      rw [hown, List.any_cons, ← Bool.or_assoc]
      cases hwrote : x.wrote with
      | false =>
        have hkeeps : l.after database (.executed (some n) x) = l := by simp [after, hwrote]
        have hafter := ih hn hrest
        rw [Bool.or_false]
        change ∃ t', ((l.after database _).afterAll database rest).transactions n = _ ∧ _
        rwa [hkeeps]
      | true =>
        have hput : (l.after database (.executed (some n) x)).transactions n =
            some { t with
              tables := (x.replay database (l.tablesFor (some n))).2, dirty := true } := by
          simp only [after, hwrote, if_true, put_some _ hn, setTransaction_self]
        obtain ⟨t', ht', hbase, hdirty⟩ := ih hput hrest
        exact ⟨t', ht', hbase, by rw [hdirty, Bool.or_true]⟩
    · rw [ownBlock_of_ne he]
      exact ih (by rw [after_transactions_of_ne he, hn]) hrest

/-- A run keeps the open transactions in line with the past. -/
theorem Follows.afterAll {events : List Event} (h : l.Follows database past)
    (hadmits : l.AdmitsAll database events) :
    (l.afterAll database events).Follows database (events.reverse ++ past) := by
  induction events generalizing l past with
  | nil => exact h
  | cons e rest ih =>
    rw [List.reverse_cons, List.append_assoc]
    exact ih (h.after hadmits.1) hadmits.2

end Ledger

namespace Host

open StoreAction

omit [Regex.Engine] in
/-- A commit that gets as far as its transaction conflicts if the transaction wrote and the version is
another one than it began with. -/
theorem commitTransaction_conflict_iff {n : SessionNumber} {t : Transaction} {s : Host}
    (hentered : ((enter none .commit).on s).1 = .ok ())
    (hopen : s.store.openTransaction? (some n) = some t) :
    ((commitTransaction n).on s).1 = .error writeConflict ↔
      t.dirty = true ∧ s.store.version ≠ t.baseVersion := by
  obtain ⟨answer, points, timeline, henter⟩ := enter_on none .commit s
  rw [henter] at hentered
  subst hentered
  have hopen' : ((s.attempted .commit).later points timeline).store.openTransaction? (some n) =
    some t := hopen
  simp only [commitTransaction_on, henter, hopen', settle]
  cases t.dirty with
  | false => simp
  | true =>
    simp only [if_true, true_and]
    change (if s.store.version ≠ t.baseVersion then _ else _ : Except StoreError Unit × Host).1 = _ ↔ _
    split
    · rename_i hversion
      exact ⟨fun _ => hversion, fun _ => rfl⟩
    · rename_i hversion
      refine ⟨?_, fun h => absurd h hversion⟩
      intro hconflict
      cases hconflict

/-- A commit conflicts exactly if its transaction wrote and a write was carried out outside of it in
the meantime, by a command or by a commit. Where there was none, the committed tables are those that
the transaction began on. -/
theorem commit_conflict_iff (s : Host) (before between : List Call) (n : SessionNumber)
    (options : TransactionOptions) (hquiet : ∀ m, s.store.openTransaction? (some m) = none) :
    let past := Call.runAll s before
    let start := Call.run past.2 (.startTransaction n options)
    let meantime := Call.runAll start.2 between
    let outside := serialFrom (.began n options :: past.1.reverse) meantime.1
    start.1 = .began n options → OnlyExecutes n meantime.1 →
    ((enter none .commit).on meantime.2).1 = .ok () →
      (((commitTransaction n).on meantime.2).1 = .error writeConflict ↔
        (ownBlock n meantime.1).any wrote = true ∧ outside.any wrote = true) ∧
      (outside.any wrote = false → meantime.2.store.tables = start.2.store.tables) := by
  intro past start meantime outside hbegan hown hentered
  obtain ⟨hbefore, hledger, hdatabase, -⟩ := runAll_evolves before s
  obtain ⟨hbegin, hstart, hdatabase', -⟩ :=
    hbegan ▸ run_moves (.startTransaction n options) past.2
  obtain ⟨hadmits, hafter, -, -⟩ := runAll_evolves between start.2
  change past.2.store.ledger = _ at hledger
  change start.2.store.ledger = _ at hstart
  change meantime.2.store.ledger = _ at hafter
  have hfollows : start.2.store.ledger.Follows start.2.store.database
      (.began n options :: past.1.reverse) := by
    have hquiet' : s.store.ledger.Follows s.store.database [] := Ledger.follows_nil hquiet
    have hpast := hquiet'.afterAll hbefore
    rw [← hledger, List.append_nil, ← hdatabase] at hpast
    have hnext := hpast.after hbegin
    rwa [← hstart, ← hdatabase'] at hnext
  have hopened : start.2.store.ledger.transactions n =
      some ⟨past.2.store.version, past.2.store.tables, false, options⟩ := by
    rw [hstart]
    exact Ledger.setTransaction_self _
  have hbase : start.2.store.ledger.version = past.2.store.version := by
    rw [hstart]
    rfl
  obtain ⟨t, ht, hversion, hdirty⟩ :=
    Ledger.exists_transaction_afterAll start.2.store.database hopened hown
  have hraised : meantime.2.store.ledger.version = start.2.store.ledger.version ↔
      outside.any wrote = false := by
    rw [hafter]
    exact hfollows.version_afterAll hadmits
  constructor
  · rw [← hafter] at ht
    have hrisen : meantime.2.store.version ≠ past.2.store.version ↔ outside.any wrote = true := by
      rw [hbase] at hraised
      rw [← Bool.not_eq_false, ← hraised]
      exact Iff.rfl
    rw [commitTransaction_conflict_iff hentered ht, hdirty, hversion, Bool.false_or, hrisen]
  · intro hnone
    have hsame := hraised.2 hnone
    rw [hafter] at hsame
    have htables := Ledger.tables_afterAll hsame
    rw [← hafter] at htables
    exact htables

end Host

end

open scoped Regex
open Execution

namespace Host

open StoreAction

/-- An insertion outside of a transaction that inserted as well. -/
theorem commit_conflict_iff_insert :
    let s : Host := { store := { database := "d" }, timeline := { now := 0 } }
    let insert (session : Option SessionNumber) : Call :=
      .command .background session "c" (.insert [])
    let past := Call.runAll s [.startSession {}]
    let start := Call.run past.2 (.startTransaction 0 {})
    let meantime := Call.runAll start.2 [insert (some 0), insert none]
    (∀ m, s.store.openTransaction? (some m) = none) ∧ start.1 = .began 0 {} ∧
      OnlyExecutes 0 meantime.1 ∧ ((enter none .commit).on meantime.2).1 = .ok () ∧
      ((commitTransaction 0).on meantime.2).1 = .error writeConflict := by
  intro s insert past start meantime
  have hquiet : ∀ m, s.store.openTransaction? (some m) = none := fun _ => rfl
  have hown : OnlyExecutes 0 meantime.1 := by
    intro e he hsession
    change e ∈ [_, _] at he
    simp only [List.mem_cons, List.not_mem_nil, or_false] at he
    rcases he with rfl | rfl
    · exact ⟨_, rfl⟩
    · cases hsession
  have hconflict := (commit_conflict_iff s [.startSession {}] [insert (some 0), insert none] 0 {}
    hquiet rfl hown rfl).1
  exact ⟨hquiet, rfl, hown, rfl, hconflict.2 ⟨by decide +kernel, by decide +kernel⟩⟩

/-- Commands outside of a transaction that leave the documents as they are: an insertion of an
identity that is there already, an update that matches nothing, and a replacement of a document by
itself. Each of them makes the commit conflict. -/
theorem commit_conflict_without_change :
    let d : Document := [("_id", .objectId ⟨1⟩)]
    let s : Host := {
      store := { database := "d", tables := Tables.empty.set "c" [d] }, timeline := { now := 0 } }
    let own : List Call := [.startSession {}, .startTransaction 0 {},
      .command .background (some 0) "c" (.insert [("_id", .objectId ⟨3⟩)])]
    let start := (Call.runAll s own).2
    ∀ x ∈ [Command.insert d,
        .update [("_id", .objectId ⟨2⟩)] [("$set", .document [("a", .null)])],
        .replace [("_id", .objectId ⟨1⟩)] d],
      let later := (Call.run start (.command .background none "c" x)).2
      later.store.tables = start.store.tables ∧
        ((commitTransaction 0).on later).1 = .error writeConflict := by
  intro d s own start x hx
  have hconflict : ∀ answer : Except StoreError Unit,
      (match answer with | .error e => e == writeConflict | .ok _ => false) = true →
        answer = .error writeConflict := by
    rintro (e | u) h
    · rw [eq_of_beq h]
    · cases h
  have hkept : ∀ x' : Command,
      (∀ name fresh reply docs, x'.run name fresh [d] = .ok (reply, docs) → docs = [d]) →
      (Call.run start (.command .background none "c" x')).2.store.tables = start.store.tables :=
    fun x' h => (issue_sameDocuments fun name fresh reply docs _ => h name fresh reply docs).committed
  have hid : d.get? "_id" = some (.objectId ⟨1⟩) := rfl
  simp only [List.mem_cons, List.not_mem_nil, or_false] at hx
  rcases hx with rfl | rfl | rfl
  · refine ⟨hkept _ ?_, hconflict _ (by decide +kernel)⟩
    intro name fresh reply docs hrun
    cases hrun
  · refine ⟨hkept _ ?_, hconflict _ (by decide +kernel)⟩
    intro name fresh reply docs hrun
    have hmissing : [d].find? (SaveStrategy.replace.finds ⟨2⟩) = none := by
      rw [List.find?_singleton, SaveStrategy.finds, Document.hasId_of_get? hid]
      rfl
    have hupdate := Table.update_of_find?_eq_none
      (SaveStrategy.replace.matchesFilter_filter ⟨2⟩) hmissing [("$set", .document [("a", .null)])]
    obtain ⟨_, hresult, hend⟩ := exists_of_bind_eq_ok hrun
    cases hupdate.symm.trans hresult
    cases hend
    rfl
  · refine ⟨hkept _ ?_, hconflict _ (by decide +kernel)⟩
    intro name fresh reply docs hrun
    obtain ⟨_, hresult, hend⟩ := exists_of_bind_eq_ok hrun
    cases hend
    rcases Table.replace_eq_ok hresult with ⟨-, hkept⟩ | ⟨old, -, first, rest, hold, hnext⟩
    · exact hkept
    · rcases List.append_eq_singleton_iff.1 hold.symm with ⟨rfl, hrest⟩ | ⟨-, hrest⟩
      · cases hrest
        exact hnext
      · cases hrest

end Host

end DocStore
