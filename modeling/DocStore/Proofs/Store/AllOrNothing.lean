import DocStore.Proofs.Store.History
import DocStore.Proofs.Store.InPlace
import DocStore.Regex.Default
/-!
Writes that fail. A store that carries out writes in place notes the write, lets the command work on
the documents that its session sees, and keeps what is there when the command ends, well or not. It
cannot be told from one that puts the documents after a command in place of those before it, since a
command that fails has stored nothing. So a call that gives an error leaves all documents as they
were, the committed ones and those of every open transaction.
-/
namespace DocStore

section

namespace Store

/-- Gives a session another transaction. -/
def putTransaction (s : Store) (n : SessionNumber) (t : Transaction) : Store :=
  s.modifySession n fun x => { x with transaction := some t }

/-- Notes a write: in the transaction that a call made in a session belongs to, or in the version.
Each write takes an identity, whether or not it needs one. -/
def noteWrite (s : Store) (session : Option SessionNumber) : Store :=
  let noted := match session, s.openTransaction? session with
    | some n, some transaction => s.putTransaction n { transaction with dirty := true }
    | _, _ => { s with version := s.version + 1 }
  { noted with nextIdentity := s.nextIdentity + 1 }

/-- Keeps documents in the place of those that a call made in a session sees. -/
def keep (s : Store) (session : Option SessionNumber) (collection : String)
    (docs : List Document) : Store :=
  match session, s.openTransaction? session with
  | some n, some transaction =>
    s.putTransaction n { transaction with tables := transaction.tables.set collection docs }
  | _, _ => { s with tables := s.tables.set collection docs }

theorem openTransaction?_putTransaction {s : Store} {n : SessionNumber} {t : Transaction}
    (h : s.openTransaction? (some n) = some t) (t' : Transaction) :
    (s.putTransaction n t').openTransaction? (some n) = some t' := by
  have hn : n < s.sessions.length := lt_of_openTransaction? h
  rw [openTransaction?_some, putTransaction, modifySession, List.getElem?_modify_eq,
    List.getElem?_eq_getElem hn]
  rfl

theorem putTransaction_putTransaction (s : Store) (n : SessionNumber) (t t' : Transaction) :
    (s.putTransaction n t).putTransaction n t' = s.putTransaction n t' := by
  simp only [putTransaction, modifySession, List.modify_modify_eq]
  rfl

theorem openTransaction?_noteWrite (s : Store) (session : Option SessionNumber) :
    (s.noteWrite session).openTransaction? session =
      (s.openTransaction? session).map fun t => { t with dirty := true } := by
  cases session with
  | none => rfl
  | some n =>
    cases hopen : s.openTransaction? (some n) with
    | none =>
      simp only [noteWrite, hopen]
      exact hopen
    | some t =>
      simp only [noteWrite, hopen]
      exact openTransaction?_putTransaction hopen _

theorem visibleTables_noteWrite (s : Store) (session : Option SessionNumber) :
    (s.noteWrite session).visibleTables session = s.visibleTables session := by
  have htables : (s.noteWrite session).tables = s.tables := by
    unfold noteWrite
    split <;> rfl
  rw [visibleTables, visibleTables, openTransaction?_noteWrite, htables]
  cases s.openTransaction? session <;> rfl

/-- A write is noted before documents are kept, and in the same place. -/
theorem keep_noteWrite (s : Store) (session : Option SessionNumber) (collection : String)
    (docs : List Document) :
    (s.noteWrite session).keep session collection docs =
      { s.write session collection docs with nextIdentity := s.nextIdentity + 1 } := by
  have hnoted := s.openTransaction?_noteWrite session
  cases session with
  | none => rfl
  | some n =>
    cases hopen : s.openTransaction? (some n) with
    | none =>
      rw [hopen] at hnoted
      simp only [keep, hnoted, Option.map_none, write, hopen]
      simp only [noteWrite, hopen]
    | some t =>
      rw [hopen] at hnoted
      have hput := s.putTransaction_putTransaction n { t with dirty := true }
        { t with tables := t.tables.set collection docs, dirty := true }
      simp only [keep, hnoted, Option.map_some, write, hopen]
      simp only [noteWrite, hopen]
      exact congrArg (fun s' : Store => { s' with nextIdentity := s.nextIdentity + 1 }) hput

end Store

variable [Regex.Engine]

namespace Host

open StoreAction InPlace

/-- Lets a program work on the documents of a collection that a call made in a session sees. What it
has stored stays when it fails. -/
def within (session : Option SessionNumber) (collection : String)
    (program : InPlace (List Document) α) : StoreAction α := do
  let (answer, docs) := program.on ((← get).store.visibleTables session collection)
  modifyStore fun s => s.keep session collection docs
  liftM answer

/-- A write that is carried out in place once it has been admitted and noted. -/
def writeInPlace (context : Context) (session : Option SessionNumber) (collection : String)
    (operation : Operation) (program : String → ObjectId → InPlace (List Document) α) :
    StoreAction α := do
  admission context session operation
  let store := (← get).store
  modifyStore fun s => s.noteWrite session
  within session collection (program (store.database ++ "." ++ collection) store.freshIdentity)

section Calls

variable (context : Context) (session : Option SessionNumber) (collection : String)

def insertInPlace (d : Document) : StoreAction Value :=
  writeInPlace context session collection .insert fun name fresh =>
    Table.insertInPlace name fresh d

def replaceInPlace (filter replacement : Document) : StoreAction UpdateResult :=
  writeInPlace context session collection .replace fun _ _ =>
    Table.replaceInPlace filter replacement

def updateInPlace (filter changes : Document) : StoreAction UpdateResult :=
  writeInPlace context session collection .update fun _ _ => Table.updateInPlace filter changes

def deleteInPlace (filter : Document) : StoreAction Nat :=
  writeInPlace context session collection .delete fun _ _ => Table.deleteInPlace filter

/-- Where a program does all of what a command does or nothing, the write in place is the issue of
the command. -/
theorem writeInPlace_eq_issue (command : Command) (hwrite : command.isWrite = true)
    {program : String → ObjectId → InPlace (List Document) α} {read : Reply → α}
    (hprogram : ∀ name fresh docs, (program name fresh).on docs =
      allOrNothing docs ((command.run name fresh docs).map fun r => (read r.1, r.2))) :
    writeInPlace context session collection command.operation program =
      issue context session collection command >>= fun reply => pure (read reply) := by
  funext s
  change (writeInPlace context session collection command.operation program).on s =
    (issue context session collection command >>= fun reply => pure (read reply)).on s
  unfold writeInPlace
  rw [StoreAction.on_bind, StoreAction.on_bind, issue_on]
  rcases (admission context session command.operation).on s with ⟨e | u, t⟩
  · rfl
  · dsimp only
    rw [StoreAction.on_get_bind, on_modifyStore_bind, within, StoreAction.on_get_bind, hprogram]
    have hdocs : (t.store.noteWrite session).visibleTables session collection =
        t.store.visibleTables session collection :=
      congrFun (t.store.visibleTables_noteWrite session) collection
    rw [on_modifyStore_bind]
    simp only [carryOut, hwrite, if_true, hdocs, Store.keep_noteWrite]
    cases command.run (t.store.database ++ "." ++ collection) t.store.freshIdentity
      (t.store.visibleTables session collection) with
    | error e => rfl
    | ok outcome => rfl

theorem insert_eq_insertInPlace (d : Document) :
    Host.insert context session collection d = insertInPlace context session collection d := by
  rw [insert_eq_issue]
  refine (writeInPlace_eq_issue context session collection (.insert d) rfl ?_).symm
  intro name fresh docs
  rw [Table.insertInPlace_on, Command.run]
  cases Table.insert name fresh d docs <;> rfl

theorem replace_eq_replaceInPlace (filter replacement : Document) :
    Host.replace context session collection filter replacement =
      replaceInPlace context session collection filter replacement := by
  rw [replace_eq_issue]
  refine (writeInPlace_eq_issue context session collection (.replace filter replacement) rfl
    ?_).symm
  intro name fresh docs
  rw [Table.replaceInPlace_on, Command.run]
  cases Table.replace filter replacement docs <;> rfl

theorem update_eq_updateInPlace (filter changes : Document) :
    Host.update context session collection filter changes =
      updateInPlace context session collection filter changes := by
  rw [update_eq_issue]
  refine (writeInPlace_eq_issue context session collection (.update filter changes) rfl
    ?_).symm
  intro name fresh docs
  rw [Table.updateInPlace_on, Command.run]
  cases Table.update filter changes docs <;> rfl

theorem delete_eq_deleteInPlace (filter : Document) :
    Host.delete context session collection filter =
      deleteInPlace context session collection filter := by
  rw [delete_eq_issue]
  refine (writeInPlace_eq_issue context session collection (.delete filter) rfl ?_).symm
  intro name fresh docs
  rw [Table.deleteInPlace_on, Command.run]
  cases Table.reject filter docs <;> rfl

end Calls

/-- The same documents are committed, and the same ones are seen in every open transaction. -/
structure SameDocuments (s t : Host) : Prop where
  committed : t.store.tables = s.store.tables
  transactions : ∀ n, (t.store.openTransaction? (some n)).map Transaction.tables =
    (s.store.openTransaction? (some n)).map Transaction.tables

/-- Wherever an action fails, it leaves all documents as they were. -/
def Atomic (action : StoreAction α) : Prop :=
  ∀ s t e, action.on s = (.error e, t) → s.SameDocuments t

end Host

omit [Regex.Engine] in
/-- Putting what is seen in a session where it is seen leaves all documents as they are. -/
theorem Ledger.put_tablesFor (l : Ledger) (session : Option SessionNumber) :
    (l.put session (l.tablesFor session)).tables = l.tables ∧
      ∀ n, ((l.put session (l.tablesFor session)).transactions n).map Transaction.tables =
        (l.transactions n).map Transaction.tables := by
  cases hsession : l.transaction? session with
  | none =>
    rw [put_none session _ hsession, tablesFor_none hsession]
    exact ⟨rfl, fun n => rfl⟩
  | some t =>
    obtain ⟨m, rfl, hm⟩ := Option.bind_eq_some_iff.1 hsession
    rw [put_some _ hm, tablesFor_some hm]
    refine ⟨rfl, fun n => ?_⟩
    by_cases hn : n = m
    · subst hn
      rw [setTransaction_self, hm]
      rfl
    · rw [setTransaction_of_ne hn]

namespace Host

open StoreAction

variable {context : Context} {session : Option SessionNumber} {collection : String}
  {command : Command} {s : Host}

/-- A command leaves all documents as they were unless it gives an answer and puts others in the
place of those that it was run for. -/
theorem issue_sameDocuments
    (h : ∀ name fresh reply docs, ((issue context session collection command).on s).1 = .ok reply →
      command.run name fresh (s.store.ledger.tablesFor session collection) = .ok (reply, docs) →
      docs = s.store.ledger.tablesFor session collection) :
    s.SameDocuments ((issue context session collection command).on s).2 := by
  obtain ⟨hadmits, hledger, -, -⟩ := issue_moves context session collection command s
  simp only [Call.run, Ledger.Admits, Ledger.after] at hadmits hledger
  generalize Call.refusal? context session command s = refusal at hadmits hledger
  generalize (issue context session collection command).on s = outcome at h hadmits hledger ⊢
  obtain ⟨answer, t⟩ := outcome
  let x : Execution := ⟨collection, command, s.store.freshIdentity, refusal, answer⟩
  have hreplay : (x.replay s.store.database (s.store.ledger.tablesFor session)).2 =
      s.store.ledger.tablesFor session := by
    cases refusal with
    | some e => rfl
    | none =>
      simp only [x, Execution.replay, Tables.execute] at hadmits ⊢
      split at hadmits
      · rename_i reply docs hrun
        rw [h _ _ reply docs hadmits hrun, Tables.set_self]
      · rfl
  rw [hreplay] at hledger
  have hsame : t.store.ledger.tables = s.store.ledger.tables ∧
      ∀ n, (t.store.ledger.transactions n).map Transaction.tables =
        (s.store.ledger.transactions n).map Transaction.tables := by
    rw [hledger]
    split
    · exact s.store.ledger.put_tablesFor session
    · exact ⟨rfl, fun n => rfl⟩
  exact ⟨hsame.1, hsame.2⟩

/-- A command that gives an error, whether it is refused or carried out in vain, leaves all
documents as they were. -/
theorem issue_atomic (context : Context) (session : Option SessionNumber) (collection : String)
    (command : Command) : Atomic (issue context session collection command) := by
  intro s t e h
  have hsame : s.SameDocuments ((issue context session collection command).on s).2 := by
    apply issue_sameDocuments
    intro name fresh reply docs hanswer
    rw [h] at hanswer
    cases hanswer
  rwa [h] at hsame

omit [Regex.Engine] in
theorem Atomic.read {action : StoreAction α} (h : Atomic action) (f : α → β) :
    Atomic (action >>= fun a => pure (f a)) := by
  intro s t e herror
  rw [on_bind] at herror
  rcases haction : action.on s with ⟨e' | a, u⟩
  · rw [haction] at herror
    cases herror
    exact h s _ _ haction
  · rw [haction] at herror
    cases herror

/-- Each write is what its program in place makes of the store, and leaves all documents as they
were wherever it fails. -/
theorem writes_allOrNothing (context : Context) (session : Option SessionNumber)
    (collection : String) :
    (∀ d, Host.insert context session collection d = insertInPlace context session collection d ∧
      Atomic (Host.insert context session collection d)) ∧
    (∀ filter replacement, Host.replace context session collection filter replacement =
        replaceInPlace context session collection filter replacement ∧
      Atomic (Host.replace context session collection filter replacement)) ∧
    (∀ filter changes, Host.update context session collection filter changes =
        updateInPlace context session collection filter changes ∧
      Atomic (Host.update context session collection filter changes)) ∧
    (∀ filter, Host.delete context session collection filter =
        deleteInPlace context session collection filter ∧
      Atomic (Host.delete context session collection filter)) := by
  have hissue := issue_atomic context session collection
  refine ⟨fun d => ⟨insert_eq_insertInPlace _ _ _ d, ?_⟩, fun filter replacement =>
    ⟨replace_eq_replaceInPlace _ _ _ filter replacement, ?_⟩, fun filter changes =>
    ⟨update_eq_updateInPlace _ _ _ filter changes, ?_⟩, fun filter =>
    ⟨delete_eq_deleteInPlace _ _ _ filter, ?_⟩⟩
  · rw [insert_eq_issue]
    exact (hissue _).read _
  · rw [replace_eq_issue]
    exact (hissue _).read _
  · rw [update_eq_issue]
    exact (hissue _).read _
  · rw [delete_eq_issue]
    exact (hissue _).read _

end Host

end

open scoped Regex

namespace Host

open StoreAction

/-- The first modifier of an update in a transaction has been carried out on the working copy when
the second one fails. -/
theorem writes_allOrNothing_modifiers :
    let d : Document := [("_id", .int32 1), ("a", .int32 1), ("b", .string "x")]
    let changes : Document :=
      [("$set", .document [("a", .int32 2)]), ("$inc", .document [("b", .int32 1)])]
    let tables := Tables.empty.set "c" [d]
    let s : Host := {
      store := {
        database := "d", tables
        sessions := [{ options := {}, transaction := some ⟨0, tables, false, {}⟩ }] }
      timeline := { now := 0 } }
    let call := Host.update .background (some 0) "c" [("_id", .int32 1)] changes
    (d.get? "a").any (·.equal (.int32 1)) ∧
      (((Document.updateInPlace changes).on d).2.get? "a").any (·.equal (.int32 2)) ∧
      (call.on s).1.isOk = false ∧ s.SameDocuments (call.on s).2 := by
  intro d changes tables s call
  have hfails : (call.on s).1.isOk = false := by decide +kernel
  have hatomic := (writes_allOrNothing .background (some 0) "c").2.2.1 [("_id", .int32 1)] changes
  refine ⟨by decide +kernel, by decide +kernel, hfails, ?_⟩
  rcases hcall : call.on s with ⟨e | result, t⟩
  · exact hatomic.2 s t e hcall
  · rw [hcall] at hfails
    cases hfails

end Host

end DocStore
