import DocStore.Proofs.Collection.Deleted
import DocStore.Proofs.Collection.Records
import DocStore.Proofs.Store.Invariants
import DocStore.Proofs.Transaction.Clients
import DocStore.Regex.Default
/-!
Deletions win. Clients that save under guarded updates never change a committed document that is marked
as deleted: its mark stops the commands that see it, and a transaction that began before can no longer
commit what it wrote.
-/
namespace DocStore

section

variable {removable : Document → Bool}
variable [Regex.Engine]

def Event.Guarded (removable : Document → Bool) : Event → Prop
  | .executed _ x => x.command.Guarded removable
  | .idle | .began _ _ | .committed _ | .conflicted _ | .dropped _ => True

/-- Calls of clients that save under guarded updates, with transactions or without. -/
def guardedRule (removable : Document → Bool) : CallRule where
  Allows
    | .command _ _ _ command => command.Guarded removable
    | .startSession _ | .startTransaction _ _ | .commit _ | .abort _ | .endSession _
    | .meanwhile _ => True
  meanwhile _ := trivial

theorem guardedRule_transactional : (guardedRule removable).Transactional :=
  ⟨fun _ => trivial, fun _ _ => trivial, fun _ => trivial, fun _ => trivial, fun _ => trivial⟩

theorem Call.run_guarded {c : Call} (h : (guardedRule removable).Allows c) (s : Host) :
    (c.run s).1.Guarded removable := by
  cases hevent : (c.run s).1 with
  | executed session x =>
    obtain ⟨context, rfl⟩ := eq_command_of_run hevent
    exact h
  | idle | began _ _ | committed _ | conflicted _ | dropped _ => trivial

namespace Ledger

variable {p : Document → Bool} {l l' : Ledger} {database : String} {n : SessionNumber}

/-- A transaction has kept all documents of a kind, unless it is bound to conflict. -/
def Keeping (p : Document → Bool) (l : Ledger) (t : Transaction) : Prop :=
  t.baseVersion ≤ l.version ∧ (l.version = t.baseVersion → l.tables.Keeps p t.tables)

/-- No transaction that may still commit has lost a document of a kind. -/
def Shielded (p : Document → Bool) (l : Ledger) : Prop :=
  ∀ n t, l.transactions n = some t → l.Keeping p t

omit [Regex.Engine] in
theorem Shielded.setTransaction (h : l.Shielded p) {t? : Option Transaction}
    (ht : ∀ t, t? = some t → l.Keeping p t) : (l.setTransaction n t?).Shielded p := by
  intro m t hm
  by_cases hmn : m = n
  · subst hmn
    rw [setTransaction_self] at hm
    exact ht t hm
  · rw [setTransaction_of_ne hmn] at hm
    exact h m t hm

omit [Regex.Engine] in
/-- A write outside of transactions bounds all of them to conflict. -/
theorem Shielded.raise (h : l.Shielded p) (hversion : l'.version = l.version + 1)
    (hopen : ∀ n t, l'.transactions n = some t → l.transactions n = some t) : l'.Shielded p := by
  intro n t hn
  have hbase := (h n t (hopen n t hn)).1
  exact ⟨by omega, fun heq => by omega⟩

theorem Shielded.executed (h : l.Shielded (Document.isFinal removable))
    {session : Option SessionNumber} {x : Execution} (hx : x.command.Guarded removable) :
    (l.after database (.executed session x)).Shielded (Document.isFinal removable) ∧
      l.tables.Keeps (Document.isFinal removable) (l.after database (.executed session x)).tables := by
  simp only [after]
  cases x.wrote with
  | false => exact ⟨h, Tables.keeps_refl _⟩
  | true =>
    simp only [if_true]
    have hkeeps := Execution.keeps_replay hx database (l.tablesFor session)
    cases hsession : l.transaction? session with
    | none =>
      rw [put_none session _ hsession]
      rw [tablesFor_none hsession] at hkeeps ⊢
      exact ⟨h.raise rfl fun _ _ hn => hn, hkeeps⟩
    | some t =>
      obtain ⟨n, rfl, hn⟩ := Option.bind_eq_some_iff.1 hsession
      obtain ⟨hbase, htables⟩ := h n t hn
      rw [put_some _ hn]
      rw [tablesFor_some hn] at hkeeps ⊢
      refine ⟨h.setTransaction fun t' ht' => ?_, Tables.keeps_refl _⟩
      cases ht'
      exact ⟨hbase, fun hversion => (htables hversion).trans hkeeps⟩

/-- Whatever takes place, final documents stay as they are, and so do they in each transaction that
may still commit. -/
theorem Shielded.after {e : Event} (h : l.Shielded (Document.isFinal removable))
    (hadmits : l.Admits database e) (he : e.Guarded removable) :
    (l.after database e).Shielded (Document.isFinal removable) ∧
      l.tables.Keeps (Document.isFinal removable) (l.after database e).tables := by
  cases e with
  | idle => exact ⟨h, Tables.keeps_refl _⟩
  | executed session x => exact h.executed he
  | began n options =>
    refine ⟨h.setTransaction fun t ht => ?_, Tables.keeps_refl _⟩
    cases ht
    exact ⟨Nat.le_refl _, fun _ => Tables.keeps_refl _⟩
  | committed n =>
    obtain ⟨t, hn, hversion⟩ := hadmits
    have hclosed : (l.setTransaction n none).Shielded (Document.isFinal removable) :=
      h.setTransaction nofun
    simp only [Ledger.after, hn]
    cases hdirty : t.dirty with
    | false =>
      simp only [Bool.false_eq_true, if_false]
      exact ⟨hclosed, Tables.keeps_refl _⟩
    | true =>
      simp only [if_true]
      exact ⟨hclosed.raise rfl fun _ _ hm => hm, (h n t hn).2 (hversion hdirty)⟩
  | conflicted n | dropped n => exact ⟨h.setTransaction nofun, Tables.keeps_refl _⟩

end Ledger

/-- A run of guarded calls leaves final documents as they are. -/
theorem Call.runAll_keeps {calls : List Call} (h : ∀ c ∈ calls, (guardedRule removable).Allows c)
    {s : Host} (hs : s.store.ledger.Shielded (Document.isFinal removable)) :
    (runAll s calls).2.store.ledger.Shielded (Document.isFinal removable) ∧
      s.store.tables.Keeps (Document.isFinal removable) (runAll s calls).2.store.tables := by
  induction calls generalizing s with
  | nil => exact ⟨hs, Tables.keeps_refl _⟩
  | cons c rest ih =>
    obtain ⟨hc, hrest⟩ := List.forall_mem_cons.1 h
    have hmoves := Host.run_moves c s
    have hstep := hs.after hmoves.admitted (run_guarded hc s)
    rw [← hmoves.ledger] at hstep
    obtain ⟨hshielded, hkeeps⟩ := ih hrest hstep.1
    exact ⟨hshielded, hstep.2.trans hkeeps⟩

/-- Programs of clients that save under guarded updates: they save and delete objects of any types and
in any state, read, remove for good what is removable, run transactions of such work, and do anything
beside the documents. -/
inductive GuardedClient (removable : Document → Bool) : {α : Type} → StateM Host α → Prop
  | aside {action : StateM Host α} (h : ∀ s : Host, s.SameData (action.run s).2) :
    GuardedClient removable action
  | bind {x : StateM Host α} {f : α → StateM Host β} (hx : GuardedClient removable x)
      (hf : ∀ value, GuardedClient removable (f value)) : GuardedClient removable (x >>= f)
  | save [PersistentObject α] (c : Collection) (h : c.settings.strategy = .guardedUpdate)
      (object : α) (note : String) : GuardedClient removable (c.save object note)
  | delete [PersistentObject α] (c : Collection) (h : c.settings.strategy = .guardedUpdate)
      (object : α) (note : String) : GuardedClient removable (c.delete object note)
  | load [Decodable α] (c : Collection) (criteria : Expression) (options : List QueryOption) :
    GuardedClient removable (c.load criteria options : Action α).run
  | query [Decodable α] (c : Collection) (criteria : Expression) (options : List QueryOption) :
    GuardedClient removable (c.query criteria options : Action (List α)).run
  | iterate (c : Collection) (criteria : Expression) (options : List QueryOption) :
    GuardedClient removable (c.iterate criteria options).run
  | count (c : Collection) (criteria : Expression) : GuardedClient removable (c.count criteria).run
  | hardDelete (c : Collection) (criteria : Expression)
      (h : ∀ d : Document, d.meets criteria.toFilter = true → removable d = true) :
    GuardedClient removable (c.hardDelete criteria).run
  | transaction (server : Server) (context : Context) (work : UnitOfWork → StateM Host (Outcome α))
      (h : ∀ n, GuardedClient removable (work ⟨context, some n, server.settings⟩)) :
    GuardedClient removable (server.withTransaction context work)

theorem GuardedClient.follows {action : StateM Host α} (h : GuardedClient removable action) :
    Follows (guardedRule removable) action := by
  have hexisting : ∀ {c : Collection}, c.settings.strategy = .guardedUpdate → ∀ id d,
      (guardedRule removable).Allows (c.issuing (c.settings.strategy.command id d)) := by
    intro c hc id d
    rw [hc]
    change (SaveStrategy.guardedUpdate.command id d).Guarded removable
    exact SaveStrategy.command_guarded id d
  induction h with
  | aside h => exact follows_aside h
  | bind hx hf ihx ihf => exact ihx.bind ihf
  | save c hc object note =>
    exact (Collection.composed_save (fun _ => trivial) (hexisting hc) object note).follows
  | delete c hc object note =>
    exact (Collection.composed_delete (fun _ => trivial) (hexisting hc) object note).follows
  | load c criteria options => exact (Collection.composed_load (fun _ => trivial) options).follows
  | query c criteria options => exact (Collection.composed_query (fun _ => trivial) options).follows
  | iterate c criteria options => exact (Collection.composed_iterate (fun _ => trivial) options).follows
  | count c criteria => exact (Collection.composed_count trivial).follows
  | hardDelete c criteria h => exact (Collection.composed_hardDelete h).follows
  | transaction server context work _ ih =>
    exact Server.follows_withTransaction guardedRule_transactional server context ih

/-- Clients that save under guarded updates are threads of guarded calls; and in whatever order such
threads make their calls, from the moment that a committed document is marked as deleted it stays as it
is, unless it may be removed for good. -/
theorem interleave_keeps_softDeleted {ι : Type} [DecidableEq ι] {β : ι → Type}
    (removable : Document → Bool) (clients : ∀ i, StateM Host (β i))
    (hclients : ∀ i, GuardedClient removable (clients i)) :
    (∃ threads : ∀ i, Thread (β i),
      ∀ i, (threads i).Does (clients i) ∧ (threads i).Obeys (guardedRule removable)) ∧
    ∀ threads : ∀ i, Thread (β i), (∀ i, (threads i).Obeys (guardedRule removable)) →
      ∀ s : Host, (∀ n, s.store.openTransaction? (some n) = none) →
      ∀ earlier later : List ι,
        let (rest, t) := interleave threads s earlier
        let (_, u) := interleave rest t later
        ∀ name, ((t.store.tables name).filter (Document.isFinal removable)).Sublist
          (u.store.tables name) := by
  have hfollows := fun i => (hclients i).follows
  refine ⟨⟨fun i => (hfollows i).choose, fun i => (hfollows i).choose_spec.symm⟩, ?_⟩
  intro threads hthreads s hs earlier later
  have hshielded : s.store.ledger.Shielded (Document.isFinal removable) := by
    intro n t hn
    rw [show s.store.ledger.transactions n = none from hs n] at hn
    cases hn
  obtain ⟨hrest, calls, hcalls, hearlier⟩ := exists_calls_of_interleave hthreads s earlier
  obtain ⟨_, calls', hcalls', hlater⟩ :=
    exists_calls_of_interleave hrest (interleave threads s earlier).2 later
  have ht := Call.runAll_keeps hcalls hshielded
  rw [← hearlier] at ht
  have hu := Call.runAll_keeps hcalls' ht.1
  rw [← hlater] at hu
  exact hu.2

def noteId : ObjectId := ⟨1⟩

def note (deleteDate : Int64) : Document :=
  [("_id", .objectId noteId), ("text", .string "early"),
    ("journal", .document [("createDate", .int64 1), ("deleteDate", .int64 deleteDate)])]

def noteHost : Host :=
  { store := { database := "main", tables := Tables.empty.set "notes" [note 0] },
    timeline := { now := nanosPerSecond } }

/-- One client deletes a note, and a late one saves what it knows of the note in a transaction. -/
def noteClient (late : Bool) : StateM Host Unit := do
  let settings : CollectionSettings := { strategy := .guardedUpdate }
  let known := Record.ofDocument (note 0)
  if late then
    let _ ← Server.withTransaction { settings } .background fun w => do
      let (answer, _) ← (w.collection "notes").save known "late"
      return .returned answer
  else
    let _ ← Collection.delete ⟨"notes", .background, none, settings⟩ known ""

def noteUpdate (session : Option SessionNumber) (fields : Document) : Call :=
  .command .background session "notes"
    (.update (SaveStrategy.guardedUpdate.filter noteId) [("$set", .document fields)])

/-- The calls by which the documents come to change. -/
def noteThread (late : Bool) : Thread Unit :=
  if late then
    .call (.startSession {}) fun _ => .call (.startTransaction 0 {}) fun _ =>
      .call (noteUpdate (some 0) [("text", .string "late")]) fun _ =>
        .call (.commit 0) fun _ => .done ()
  else .call (noteUpdate none [("journal.deleteDate", .int64 7)]) fun _ => .done ()

end

open scoped Regex

/-- A note that is deleted while a transaction is open stays deleted when that is to be committed. -/
theorem interleave_keeps_softDeleted_late :
    let nothing : Document → Bool := fun _ => false
    let (rest, t) := interleave noteThread noteHost [true, true, true, false]
    let (_, u) := interleave rest t [true]
    (∀ late, GuardedClient nothing (noteClient late)) ∧
      (∀ late, (noteThread late).Obeys (guardedRule nothing)) ∧
      t.store.tables "notes" = [note 7] ∧ (note 7).isFinal nothing = true ∧
      ((t.store.tables "notes").filter (Document.isFinal nothing)).Sublist
        (u.store.tables "notes") := by
  intro nothing
  have haside : ∀ value : Unit, GuardedClient nothing (pure value) := fun _ =>
    .aside fun s => ⟨rfl, rfl, rfl, rfl⟩
  have hclients : ∀ late, GuardedClient nothing (noteClient late) := by
    intro late
    cases late with
    | false => exact .bind (.delete _ rfl _ _) fun _ => haside _
    | true =>
      refine .bind (.transaction _ _ _ fun n => ?_) fun _ => haside _
      exact .bind (.save _ rfl _ _) fun _ => .aside fun s => ⟨rfl, rfl, rfl, rfl⟩
  have hthreads : ∀ late, (noteThread late).Obeys (guardedRule nothing) := by
    intro late
    cases late with
    | false => exact ⟨⟨noteId, rfl⟩, fun _ => trivial⟩
    | true =>
      exact ⟨trivial, fun _ => ⟨trivial, fun _ => ⟨⟨noteId, rfl⟩, fun _ => ⟨trivial,
        fun _ => trivial⟩⟩⟩⟩
  have hkeeps := (interleave_keeps_softDeleted nothing noteClient hclients).2 noteThread hthreads
    noteHost (fun _ => rfl) [true, true, true, false] [true]
  exact ⟨hclients, hthreads, rfl, rfl, hkeeps "notes"⟩

end DocStore
