import DocStore.Proofs.Collection.Storing
import DocStore.Proofs.Transaction.Saving
/-!
A transaction that saves some objects one after the other, on a host that nothing disturbs. Where
the committed tables are ready for all of them, it stores them; where one of them counts as existing
but does not exist, it fails.
-/
namespace DocStore

open PersistentObject (identity isNew encode)
open Collection (Ready)
open Table (Lacks Owns Stores identified)

/-- The state of a client in a transaction of its own, with the committed tables as they were when
it began. -/
structure Host.InTransaction (context : Context) (n : SessionNumber) (s : Host) (t : Transaction) :
    Prop where
  undisturbed : s.Undisturbed context
  isEnded : s.store.isEnded (some n) = false
  opened : s.store.ledger.transactions n = some t
  version : s.store.ledger.version = t.baseVersion

namespace Host

open StoreAction

variable {context : Context} {n : SessionNumber} {s : Host} {t : Transaction}

theorem Wrote.inTransaction {collection : String} {docs : List Document} {u : Host}
    (h : s.Wrote context (some n) collection docs u) (hs : s.InTransaction context n t) :
    u.InTransaction context n { t with tables := t.tables.set collection docs, dirty := true } := by
  have hledger := h.ledger
  rw [Ledger.put_some _ hs.opened, Ledger.tablesFor_some hs.opened] at hledger
  refine ⟨h.undisturbed, h.isEnded.trans hs.isEnded, ?_, ?_⟩
  · rw [hledger]
    exact Ledger.setTransaction_self _
  · rw [hledger]
    exact hs.version

/-- A session that is started goes on, and has no transaction yet. -/
theorem Undisturbed.startSession_on (h : s.Undisturbed context) (options : SessionOptions) :
    ∃ t, (startSession options).on s = (.ok s.store.sessions.length, t) ∧
      t.Undisturbed context ∧ t.store.ledger = s.store.ledger ∧
      t.store.sessions[s.store.sessions.length]? = some { options } := by
  have hstart : (startSession options).on s = (.ok s.store.sessions.length,
      { s.attempted .startSession with store := { (s.attempted .startSession).store with
        sessions := s.store.sessions ++ [{ options }], lastSessionOptions := some options } }) := by
    rw [startSession, on_bind_of_ok (h.enter_none_on .startSession), on_get_bind,
      on_modifyStore_bind]
    rfl
  refine ⟨_, hstart, ⟨h.connected, h.failPoints, h.alive⟩, ?_, ?_⟩
  · exact Store.ledger_addSession s.store options _ rfl rfl rfl
  · simp

/-- A transaction begins on the committed tables. -/
theorem Undisturbed.startTransaction_on (h : s.Undisturbed context) {session : Session}
    (hsession : s.store.sessions[n]? = some session) (hended : session.ended = false)
    (hopen : session.transaction = none) (options : TransactionOptions) :
    ∃ t, (startTransaction n options).on s = (.ok (), t) ∧
      t.InTransaction context n ⟨s.store.version, s.store.tables, false, options⟩ := by
  let begun : Host := { s.attempted .startTransaction with
    store := (s.attempted .startTransaction).store.modifySession n fun x =>
      { x with transaction := some ⟨s.store.version, s.store.tables, false, options⟩ } }
  have hnone : (s.attempted .startTransaction).store.openTransaction? (some n) = none := by
    rw [Store.openTransaction?_some]
    change s.store.sessions[n]?.bind Session.transaction = none
    rw [hsession]
    exact hopen
  have hstart : (startTransaction n options).on s = (.ok (), begun) := by
    rw [startTransaction, on_bind_of_ok (h.enter_none_on .startTransaction), on_get_bind]
    dsimp only
    rw [hnone]
    rfl
  have hledger : begun.store.ledger = s.store.ledger.setTransaction n
      (some ⟨s.store.version, s.store.tables, false, options⟩) := by
    refine (Store.ledger_modifySession _ n _).trans ?_
    change s.store.ledger.setTransaction n (s.store.sessions[n]?.bind _) = _
    rw [hsession]
    rfl
  refine ⟨begun, hstart, ⟨h.connected, h.failPoints, h.alive⟩, ?_, ?_, ?_⟩
  · simp only [begun, Store.isEnded, Store.modifySession, List.getElem?_modify_eq]
    change (Option.map _ s.store.sessions[n]?).any Session.ended = false
    rw [hsession]
    exact hended
  · rw [hledger]
    exact Ledger.setTransaction_self _
  · rw [hledger]
    rfl

/-- The tables of a transaction that wrote become the committed ones, and one that wrote nothing
leaves them as they are. -/
theorem InTransaction.commit_on (h : s.InTransaction context n t) :
    ∃ u, (commitTransaction n).on s = (.ok (), u) ∧
      u.store.tables = if t.dirty then t.tables else s.store.tables := by
  have hopen : (s.attempted .commit).store.openTransaction? (some n) = some t := h.opened
  rw [commitTransaction_on, h.undisturbed.enter_none_on]
  dsimp only
  rw [hopen]
  dsimp only
  unfold settle
  cases hdirty : t.dirty with
  | false => exact ⟨_, rfl, rfl⟩
  | true =>
    have hversion : ¬(s.attempted .commit).store.version ≠ t.baseVersion := not_not_intro h.version
    rw [if_pos rfl, if_neg hversion]
    exact ⟨_, rfl, rfl⟩

end Host

/-- On a host that nothing disturbs, work is done in a transaction on the committed tables. -/
theorem Server.withTransaction_begin {m : Type → Type} [Monad m] [LawfulMonad m] (server : Server)
    {context : Context} {s : Host} (h : s.Undisturbed context)
    (work : UnitOfWork → StateT Host m (Outcome β)) :
    ∃ n u, u.InTransaction context n
        ⟨s.store.version, s.store.tables, false, server.transactionOptions⟩ ∧
      (server.withTransaction context work).run s =
        (work ⟨context, some n, server.settings⟩).run u >>= fun r =>
          pure (Server.finish n r.1 r.2) := by
  obtain ⟨t, hstart, ht, hledger, hsession⟩ := h.startSession_on server.sessionOptions
  obtain ⟨u, hbegin, hu⟩ := ht.startTransaction_on hsession rfl rfl server.transactionOptions
  have htables : t.store.tables = s.store.tables := congrArg Ledger.tables hledger
  have hversion : t.store.version = s.store.version := congrArg Ledger.version hledger
  rw [htables, hversion] at hu
  refine ⟨s.store.sessions.length, u, hu, ?_⟩
  rw [Server.withTransaction_run, hstart]
  dsimp only
  rw [hbegin]

/-- A save that is to be made. -/
structure Task where
  collection : String
  place : Nat
  note : String

/-- Saves objects one after the other, until one cannot be saved. -/
def Saving.saveAll : List Task → Saving Unit
  | [] => .done (.returned ())
  | task :: rest => .save task.collection task.place task.note fun
    | .ok () => saveAll rest
    | .error e => .done (.failed e)

section Objects

variable [PersistentObject α] {strategy : SaveStrategy} {tables : Tables} {objects : Nat → α}
  {name : String} {docs : List Document} {id other : ObjectId} {next : Document}

/-- Which identity the object of a save has. -/
def Task.id? (objects : Nat → α) (task : Task) : Option ObjectId :=
  ObjectId.ofHex? (identity (objects task.place))

/-- A document is one of an object. -/
def Shows (strategy : SaveStrategy) (object : α) (stored : Document) : Prop :=
  ∃ id d, ObjectId.ofHex? (identity object) = some id ∧ encode object = .ok d ∧
    d.get? "_id" = some (.objectId id) ∧ d.Bears strategy stored

def Kept (strategy : SaveStrategy) (docs : List Document) (object : α) : Prop :=
  ∃ stored ∈ docs, Shows strategy object stored

/-- The tables are ready for the object of a save. -/
def Task.Fit (strategy : SaveStrategy) (tables : Tables) (objects : Nat → α) (task : Task) : Prop :=
  ∃ id, Storable strategy id (objects task.place) ∧
    Ready strategy (tables task.collection) id (objects task.place)

/-- The object of a save counts as existing, but it does not. -/
def Task.Stuck (tables : Tables) (objects : Nat → α) (task : Task) : Prop :=
  isNew (objects task.place) = false ∧
    ∃ id, task.id? objects = some id ∧ Lacks (tables task.collection) id

/-- No two saves are of objects with the same identity. -/
def Distinct (objects : Nat → α) (tasks : List Task) : Prop :=
  tasks.Pairwise fun a b => a.id? objects ≠ b.id? objects

theorem lacks_set (h : Stores (tables name) id next docs) (hne : other ≠ id)
    (collection : String) :
    Lacks (tables.set name docs collection) other ↔ Lacks (tables collection) other := by
  by_cases hname : collection = name
  · subst hname
    rw [Lacks, Lacks, Tables.set, if_pos rfl, h.found hne fun x hx => hx]
  · rw [Tables.set, if_neg hname]

theorem ready_set (h : Stores (tables name) id next docs) (hne : other ≠ id)
    (collection : String) (object : α) :
    Ready strategy (tables.set name docs collection) other object ↔
      Ready strategy (tables collection) other object := by
  have howns : Owns (tables.set name docs collection) (strategy.finds other) other ↔
      Owns (tables collection) (strategy.finds other) other := by
    by_cases hname : collection = name
    · subst hname
      rw [Owns, Owns, Tables.set, if_pos rfl,
        h.found hne fun x hx => SaveStrategy.hasId_of_finds hx]
    · rw [Tables.set, if_neg hname]
  unfold Ready
  rw [lacks_set h hne, howns]

theorem mem_set (h : Stores (tables name) id next docs) {collection : String} {x : Document}
    (hx : x ∈ tables collection) (hid : x.get? "_id" ≠ some (.objectId id)) :
    x ∈ tables.set name docs collection := by
  by_cases hname : collection = name
  · subst hname
    rw [Tables.set, if_pos rfl]
    exact h.kept x hx hid
  · rw [Tables.set, if_neg hname]
    exact hx

theorem id?_update {task : Task} {place : Nat} (h : task.place ≠ place) (object : α) :
    task.id? (Function.update objects place object) = task.id? objects := by
  rw [Task.id?, Function.update_of_ne h, Task.id?]

section Others

variable {task : Task} {rest : List Task}

/-! After one save, all is for the others as it was. -/

theorem Distinct.place_ne (h : Distinct objects (task :: rest)) :
    ∀ other ∈ rest, other.place ≠ task.place := by
  intro other hother hplace
  apply (List.pairwise_cons.1 h).1 other hother
  rw [Task.id?, Task.id?, hplace]

theorem Distinct.id_ne (h : Distinct objects (task :: rest)) (hid : task.id? objects = some id) :
    ∀ later ∈ rest, later.id? objects ≠ some id := by
  intro later hlater heq
  exact (List.pairwise_cons.1 h).1 later hlater (hid.trans heq.symm)

theorem Distinct.tail (h : Distinct objects (task :: rest)) (object : α) :
    Distinct (Function.update objects task.place object) rest := by
  refine (List.pairwise_cons.1 h).2.imp_of_mem ?_
  intro a b ha hb hab
  rw [id?_update (h.place_ne a ha), id?_update (h.place_ne b hb)]
  exact hab

theorem Task.Fit.after {later : Task} (h : later.Fit strategy tables objects)
    (hplace : later.place ≠ task.place) (hne : later.id? objects ≠ some id)
    (hstores : Stores (tables task.collection) id next docs) (object : α) :
    later.Fit strategy (tables.set task.collection docs)
      (Function.update objects task.place object) := by
  obtain ⟨laterId, hstorable, hready⟩ := h
  have hids : laterId ≠ id := fun heq => hne (heq ▸ hstorable.identity)
  rw [Task.Fit, Function.update_of_ne hplace]
  exact ⟨laterId, hstorable, (ready_set hstores hids _ _).2 hready⟩

theorem Task.Stuck.after {later : Task} (h : later.Stuck tables objects)
    (hplace : later.place ≠ task.place) (hne : later.id? objects ≠ some id)
    (hstores : Stores (tables task.collection) id next docs) (object : α) :
    later.Stuck (tables.set task.collection docs)
      (Function.update objects task.place object) := by
  obtain ⟨hnew, laterId, hid, hlacks⟩ := h
  have hids : laterId ≠ id := fun heq => hne (heq ▸ hid)
  rw [Task.Stuck, id?_update hplace, Function.update_of_ne hplace]
  exact ⟨hnew, laterId, hid, (lacks_set hstores hids _).2 hlacks⟩

end Others

/-- What the saves of a transaction have made of it: each object is stored, and nothing else has
changed. -/
structure Completed (strategy : SaveStrategy) (tasks : List Task) (t : Transaction)
    (objects : Nat → α) (t' : Transaction) (objects' : Nat → α) : Prop where
  dirty : t'.dirty = (t.dirty || !tasks.isEmpty)
  kept : ∀ collection, ∀ x ∈ t.tables collection,
    (∀ task ∈ tasks, ∀ id, task.id? objects = some id → x.get? "_id" ≠ some (.objectId id)) →
      x ∈ t'.tables collection
  stored : ∀ task ∈ tasks, Kept strategy (t'.tables task.collection) (objects' task.place)
  others : ∀ place, (∀ task ∈ tasks, task.place ≠ place) → objects' place = objects place

theorem completed_nil (strategy : SaveStrategy) (t : Transaction) (objects : Nat → α) :
    Completed strategy [] t objects t objects :=
  ⟨(Bool.or_false _).symm, fun _ _ hx _ => hx, nofun, fun _ _ => rfl⟩

/-- The saves after the first one leave its document and its object as they are. -/
theorem Completed.cons {task : Task} {rest : List Task} {t t' : Transaction} {object : α}
    {objects' : Nat → α} (hdistinct : Distinct objects (task :: rest))
    (hid : task.id? objects = some id) (hstores : Stores (t.tables task.collection) id next docs)
    (hshows : Shows strategy object next) (hnext : next.get? "_id" = some (.objectId id))
    (h : Completed strategy rest
      { t with tables := t.tables.set task.collection docs, dirty := true }
      (Function.update objects task.place object) t' objects') :
    Completed strategy (task :: rest) t objects t' objects' := by
  refine ⟨?_, ?_, ?_, ?_⟩
  · rw [h.dirty, List.isEmpty_cons, Bool.true_or, Bool.not_false, Bool.or_true]
  · intro collection x hx hothers
    refine h.kept collection x ?_ ?_
    · exact mem_set hstores hx (hothers task List.mem_cons_self id hid)
    · intro later hlater laterId hlaterId
      rw [id?_update (hdistinct.place_ne later hlater)] at hlaterId
      exact hothers later (List.mem_cons_of_mem _ hlater) laterId hlaterId
  · intro later hlater
    rcases List.mem_cons.1 hlater with rfl | hlater
    · have hstored : next ∈ t.tables.set later.collection docs later.collection := by
        rw [Tables.set, if_pos rfl]
        exact hstores.stored
      rw [h.others _ hdistinct.place_ne, Function.update_self]
      -- No later save has the identity of the document that was put first.
      refine ⟨next, h.kept _ next hstored ?_, hshows⟩
      intro other hother otherId hotherId heq
      rw [hnext] at heq
      cases heq
      rw [id?_update (hdistinct.place_ne other hother)] at hotherId
      exact hdistinct.id_ne hid other hother hotherId
    · exact h.stored later hlater
  · intro place hothers
    rw [h.others place fun later hlater => hothers later (List.mem_cons_of_mem _ hlater),
      Function.update_of_ne (Ne.symm (hothers task List.mem_cons_self))]

/-- The desk after a save that succeeded. -/
def Desk.saved (desk : Desk α) (task : Task) (now : Int64) (object : α) : Desk α :=
  ⟨Function.update desk.objects task.place object, desk.entries ++
    [⟨task.collection, task.place, task.note, now, true⟩]⟩

variable {context : Context} {n : SessionNumber} {s : Host} {t : Transaction}
  {settings : CollectionSettings} {object : α} {task : Task} {rest : List Task}
variable [Regex.Engine]

theorem saveAll_cons_of_ok {w : UnitOfWork} {desk : Desk α} {u : Host}
    (hsave : ((w.collection task.collection).save (desk.objects task.place) task.note).run s =
      ((.ok (), object), u)) :
    ((Saving.saveAll (task :: rest)).run w).run s desk =
      ((Saving.saveAll rest).run w).run u (desk.saved task (Collection.clock s) object) := by
  rw [Saving.saveAll, Saving.run]
  dsimp only [StateT.run] at hsave ⊢
  rw [hsave]
  rfl

theorem saveAll_cons_of_error {w : UnitOfWork} {desk : Desk α} {u : Host} {e : Failure}
    (hsave : ((w.collection task.collection).save (desk.objects task.place) task.note).run s =
      ((.error e, object), u)) :
    (((Saving.saveAll (task :: rest)).run w).run s desk).1.1 = .failed e := by
  rw [Saving.saveAll, Saving.run]
  dsimp only [StateT.run] at hsave ⊢
  rw [hsave]
  rfl

variable [LawfulObject α]

theorem save_inTransaction (h : s.InTransaction context n t)
    (hstorable : Storable settings.strategy id object)
    (hready : Ready settings.strategy (t.tables name) id object) (note : String) :
    ∃ next docs u,
      ((UnitOfWork.collection ⟨context, some n, settings⟩ name).save object note).run s =
        ((.ok (), Collection.stamp (Collection.clock s) note object), u) ∧
      Shows settings.strategy (Collection.stamp (Collection.clock s) note object) next ∧
      next.get? "_id" = some (.objectId id) ∧ Stores (t.tables name) id next docs ∧
      u.InTransaction context n { t with tables := t.tables.set name docs, dirty := true } := by
  let c := UnitOfWork.collection ⟨context, some n, settings⟩ name
  have hshown : c.shown s = t.tables name :=
    congrFun (Ledger.tablesFor_some h.opened) name
  have hready' : Ready c.settings.strategy (c.shown s) id object := hshown.symm ▸ hready
  obtain ⟨d, next, docs, u, hsave, henc, hid, hbears, hstores, hwrote⟩ :=
    Collection.save_of_ready (c := c) h.undisturbed h.isEnded hstorable hready' note
  rw [hshown] at hstores
  have hidentity : ObjectId.ofHex? (identity (Collection.stamp (Collection.clock s) note object)) =
      some id := by
    rw [Collection.identity_stamp]
    exact hstorable.identity
  exact ⟨next, docs, u, hsave, ⟨id, d, hidentity, henc, hid, hbears⟩, hbears.fields _ _ hid,
    hstores, hwrote.inTransaction h⟩

/-- Saves for which all is ready succeed. -/
theorem saveAll_of_fit {tasks : List Task} (h : s.InTransaction context n t) (desk : Desk α)
    (hdistinct : Distinct desk.objects tasks)
    (hfit : ∀ task ∈ tasks, task.Fit settings.strategy t.tables desk.objects) :
    ∃ u t' desk',
      ((Saving.saveAll tasks).run ⟨context, some n, settings⟩).run s desk =
        ((.returned (), u), desk') ∧
      u.InTransaction context n t' ∧
      Completed settings.strategy tasks t desk.objects t' desk'.objects := by
  induction tasks generalizing s t desk with
  | nil => exact ⟨s, t, desk, rfl, h, completed_nil _ t desk.objects⟩
  | cons task rest ih =>
    obtain ⟨id, hstorable, hready⟩ := hfit task List.mem_cons_self
    have hid : task.id? desk.objects = some id := hstorable.identity
    obtain ⟨next, docs, u, hsave, hshows, hnext, hstores, hu⟩ :=
      save_inTransaction h hstorable hready task.note
    let object := Collection.stamp (Collection.clock s) task.note (desk.objects task.place)
    obtain ⟨v, t', desk', hrun, hv, hcompleted⟩ :=
      ih hu (desk.saved task (Collection.clock s) object) (hdistinct.tail object)
        fun later hlater =>
          (hfit later (List.mem_cons_of_mem _ hlater)).after (hdistinct.place_ne later hlater)
            (hdistinct.id_ne hid later hlater) hstores object
    exact ⟨v, t', desk', (saveAll_cons_of_ok hsave).trans hrun, hv,
      hcompleted.cons hdistinct hid hstores hshows hnext⟩

/-- Saves of which one is stuck fail. -/
theorem saveAll_of_stuck {tasks : List Task} (h : s.InTransaction context n t) (desk : Desk α)
    (hdistinct : Distinct desk.objects tasks)
    (hfit : ∀ task ∈ tasks, ¬task.Stuck t.tables desk.objects →
      task.Fit settings.strategy t.tables desk.objects)
    (hstuck : ∃ task ∈ tasks, task.Stuck t.tables desk.objects) :
    ∃ e, (((Saving.saveAll tasks).run ⟨context, some n, settings⟩).run s desk).1.1 =
      .failed e := by
  induction tasks generalizing s t desk with
  | nil =>
    obtain ⟨task, htask, _⟩ := hstuck
    cases htask
  | cons task rest ih =>
    by_cases hfirst : task.Stuck t.tables desk.objects
    -- The first save fails at once.
    · obtain ⟨hnew, id, hid, hlacks⟩ := hfirst
      let c := UnitOfWork.collection ⟨context, some n, settings⟩ task.collection
      have hshown : c.shown s = t.tables task.collection :=
        congrFun (Ledger.tablesFor_some h.opened) task.collection
      rw [← hshown] at hlacks
      obtain ⟨e, u, hsave⟩ := Collection.save_of_lacks (c := c) hnew hid hlacks task.note
      exact ⟨e, saveAll_cons_of_error hsave⟩
    -- The first save succeeds, and the one that is stuck stays so.
    · obtain ⟨id, hstorable, hready⟩ := hfit task List.mem_cons_self hfirst
      have hid : task.id? desk.objects = some id := hstorable.identity
      obtain ⟨next, docs, u, hsave, hshows, hnext, hstores, hu⟩ :=
        save_inTransaction h hstorable hready task.note
      rw [saveAll_cons_of_ok hsave]
      obtain ⟨later, hlater, hlaterStuck⟩ := hstuck
      rcases List.mem_cons.1 hlater with rfl | hlater
      · exact absurd hlaterStuck hfirst
      · refine ih hu _ (hdistinct.tail _) ?_ ⟨later, hlater, hlaterStuck.after
          (hdistinct.place_ne later hlater) (hdistinct.id_ne hid later hlater) hstores _⟩
        intro other hother hfree
        have hplace := hdistinct.place_ne other hother
        have hne := hdistinct.id_ne hid other hother
        refine (hfit other (List.mem_cons_of_mem _ hother) fun hstuck => hfree ?_).after hplace hne
          hstores _
        exact hstuck.after hplace hne hstores _

variable {tasks : List Task} {desk : Desk α} {server : Server}

/-- A transaction in which all saves succeed is committed, and the objects are stored. -/
theorem withTransaction_of_fit (h : s.Undisturbed context) (hdistinct : Distinct desk.objects tasks)
    (hfit : ∀ task ∈ tasks, task.Fit server.settings.strategy s.store.tables desk.objects) :
    ∃ u desk', (server.withTransaction context fun w => (Saving.saveAll tasks).run w).run s desk =
        ((.returned (), u), desk') ∧
      ∀ task ∈ tasks, Kept server.settings.strategy (u.store.tables task.collection)
        (desk'.objects task.place) := by
  obtain ⟨n, begun, hbegun, hwork⟩ :=
    server.withTransaction_begin h fun w => (Saving.saveAll tasks).run (α := α) w
  obtain ⟨v, t, desk', hrun, hv, hcompleted⟩ := saveAll_of_fit hbegun desk hdistinct hfit
  obtain ⟨u, hcommit, htables⟩ := hv.commit_on
  refine ⟨Host.endSession n u, desk', ?_, ?_⟩
  · rw [hwork]
    refine (congrArg (fun r : (Outcome Unit × Host) × Desk α =>
      (Server.finish n r.1.1 r.1.2, r.2)) hrun).trans ?_
    simp only [Server.finish, Server.conclude_run, hcommit]
  · intro task htask
    have hdirty : t.dirty = true := by
      rw [hcompleted.dirty, List.isEmpty_eq_false_iff_exists_mem.2 ⟨task, htask⟩]
      rfl
    rw [if_pos hdirty] at htables
    have hstored := hcompleted.stored task htask
    rw [← htables] at hstored
    exact hstored

/-- A transaction in which a save fails is given up. -/
theorem withTransaction_of_stuck (h : s.Undisturbed context)
    (hdistinct : Distinct desk.objects tasks)
    (hfit : ∀ task ∈ tasks, ¬task.Stuck s.store.tables desk.objects →
      task.Fit server.settings.strategy s.store.tables desk.objects)
    (hstuck : ∃ task ∈ tasks, task.Stuck s.store.tables desk.objects) :
    ∃ e, ((server.withTransaction context fun w => (Saving.saveAll tasks).run w).run s desk).1.1 =
      .failed e := by
  obtain ⟨n, begun, hbegun, hwork⟩ :=
    server.withTransaction_begin h fun w => (Saving.saveAll tasks).run (α := α) w
  obtain ⟨e, hfailed⟩ := saveAll_of_stuck hbegun desk hdistinct hfit hstuck
  refine ⟨e, ?_⟩
  rw [hwork]
  change (Server.finish n (((Saving.saveAll tasks).run _).run begun desk).1.1 _).1 = _
  rw [hfailed]
  rfl

end Objects

end DocStore
