import DocStore.Proofs.Collection.Undisturbed
import DocStore.Proofs.Store.Writes
/-!
What a save stores. On a host that nothing disturbs, an object is stored on the path of new ones if
no document has its identity, and on the path of those that exist if a document has it. On any host,
an object that counts as existing cannot be saved where no document has its identity.
-/
namespace DocStore

open PersistentObject (identity journal setJournal modifyJournal isNew encode)

/-- An object with an identity, which its documents have for their own whatever its journal says.
Guarded updates set the fields of a document one by one, so they need plain ones. -/
structure Storable [PersistentObject α] (strategy : SaveStrategy) (id : ObjectId) (object : α) :
    Prop where
  identity : ObjectId.ofHex? (identity object) = some id
  encodes : ∀ j, ∃ d, encode (setJournal j object) = .ok d ∧
    d.get? "_id" = some (.objectId id) ∧ (strategy = .guardedUpdate → d.Plain)

/-- A stored document has the fields of a given one; after a replacement it has no others. -/
structure Document.Bears (strategy : SaveStrategy) (d stored : Document) : Prop where
  fields : ∀ key v, d.get? key = some v → stored.get? key = some v
  only : strategy = .replace → ∀ key, d.get? key = none → stored.get? key = none

namespace Document

/-- Moving the identity to the front leaves the fields as they are. -/
theorem get?_identified_of_own {id : ObjectId} {d : Document}
    (h : d.get? "_id" = some (.objectId id)) (key : String) :
    (Table.identified (.objectId id) d).get? key = d.get? key := by
  rw [Table.identified, get?_cons]
  by_cases hkey : key = "_id"
  · rw [if_pos hkey, hkey, h]
  · rw [if_neg hkey, get?_erase_of_ne hkey]

theorem bears_identified {id : ObjectId} {d : Document} (h : d.get? "_id" = some (.objectId id))
    (strategy : SaveStrategy) : d.Bears strategy (Table.identified (.objectId id) d) :=
  ⟨fun key _ hv => (get?_identified_of_own h key).trans hv,
    fun _ key hnone => (get?_identified_of_own h key).trans hnone⟩

theorem bears_updated {id : ObjectId} {d old next : Document}
    (h : d.get? "_id" = some (.objectId id)) (hold : old.get? "_id" = some (.objectId id))
    (hfields : "_id" ∉ (d.erase "_id").keys) (hupdated : Updated old (d.erase "_id") next) :
    d.Bears .guardedUpdate next := by
  refine ⟨?_, nofun⟩
  intro key v hv
  rw [hupdated]
  by_cases hkey : key = "_id"
  · subst hkey
    rw [get?_eq_none hfields, hold, ← h, hv]
    rfl
  · rw [get?_erase_of_ne hkey, hv]
    rfl

end Document

theorem Host.SameData.isEnded {s t : Host} (h : s.SameData t) (session : Option SessionNumber) :
    t.store.isEnded session = s.store.isEnded session := by
  cases session with
  | none => rfl
  | some n => simp only [Store.isEnded, h.sessions]

namespace Collection

variable [PersistentObject α] {id : ObjectId} {d : Document} {object : α}

theorem encodeObject_on (henc : encode object = .ok d) (s : Host) :
    (encodeObject object).on s = (.ok d, s) := by
  rw [encodeObject, henc]
  rfl

theorem existingId_on (hid : ObjectId.ofHex? (identity object) = some id) (s : Host) :
    (existingId object).on s = (.ok id, s) := by
  rw [existingId, hid]
  rfl

variable [LawfulObject α]

theorem setJournal_stamp (j : Journal) (now : Int64) (note : String) (object : α) :
    setJournal j (stamp now note object) = setJournal j object := by
  unfold stamp
  dsimp only
  split
  · simp only [modifyJournal, LawfulObject.setJournal_setJournal]
  · simp only [modifyJournal, LawfulObject.setJournal_setJournal]

theorem stamp_eq (now : Int64) (note : String) (object : α) :
    ∃ j, stamp now note object = setJournal j object := by
  unfold stamp
  dsimp only
  split
  · exact ⟨_, LawfulObject.setJournal_setJournal _ _ _⟩
  · exact ⟨_, rfl⟩

theorem storable_stamp {strategy : SaveStrategy} (h : Storable strategy id object) (now : Int64)
    (note : String) : Storable strategy id (stamp now note object) := by
  refine ⟨?_, ?_⟩
  · rw [identity_stamp]
    exact h.identity
  · intro j
    rw [setJournal_stamp]
    exact h.encodes j

end Collection

variable [Regex.Engine]

namespace Host

open StoreAction

variable {context : Context} {s : Host} {session : Option SessionNumber} {collection : String}
  {command : Command}

/-- The answer of a command that was carried out comes from the documents it works on. -/
theorem run_of_issue_on {reply : Reply} {t : Host}
    (h : (issue context session collection command).on s = (.ok reply, t)) :
    ∃ name fresh docs,
      command.run name fresh (s.store.ledger.tablesFor session collection) = .ok (reply, docs) := by
  obtain ⟨answer, points, timeline, hadmission⟩ := admission_on context session command.operation s
  rw [issue_on, hadmission] at h
  cases answer with
  | error e => cases h
  | ok u =>
    have hanswer := congrArg Prod.fst h
    dsimp only at hanswer
    rw [carryOut_answer, Tables.execute] at hanswer
    split at hanswer
    · rename_i reply' docs hrun
      cases hanswer
      exact ⟨_, _, docs, hrun⟩
    · cases hanswer

/-- One collection has other documents than before, as seen in a session. -/
structure Wrote (context : Context) (session : Option SessionNumber) (collection : String)
    (docs : List Document) (s t : Host) : Prop where
  undisturbed : t.Undisturbed context
  ledger : t.store.ledger =
    s.store.ledger.put session ((s.store.ledger.tablesFor session).set collection docs)
  database : t.store.database = s.store.database
  isEnded : t.store.isEnded session = s.store.isEnded session
  sessions : s.store.sessions.length ≤ t.store.sessions.length

theorem carryOut_isEnded (session other : Option SessionNumber) (collection : String)
    (command : Command) (s : Host) :
    (s.carryOut session collection command).2.store.isEnded other = s.store.isEnded other := by
  cases hwrite : command.isWrite with
  | false => simp [carryOut, hwrite]
  | true =>
    simp only [carryOut, hwrite, if_true]
    exact Store.write_isEnded _ _ _ _ other

theorem Undisturbed.issue_write (h : s.Undisturbed context)
    (hsession : s.store.isEnded session = false) (hwrite : command.isWrite = true)
    {reply : Reply} {docs : List Document}
    (hrun : ∀ name fresh,
      command.run name fresh (s.store.ledger.tablesFor session collection) = .ok (reply, docs)) :
    ∃ t, (issue context session collection command).on s = (.ok reply, t) ∧
      s.Wrote context session collection docs t := by
  obtain ⟨t, hsame, hundisturbed, hissue⟩ := h.issue_on hsession collection command
  have hexecute : (s.store.ledger.tablesFor session).execute t.store.database collection
      t.store.freshIdentity command =
      (.ok reply, (s.store.ledger.tablesFor session).set collection docs) := by
    rw [Tables.execute, hrun]
  refine ⟨(t.carryOut session collection command).2, ?_, hundisturbed.carryOut _ _ _, ?_, ?_, ?_,
    ?_⟩
  · rw [hissue]
    refine Prod.ext ?_ rfl
    rw [carryOut_answer, hsame.ledger, hexecute]
  · rw [carryOut_ledger, hwrite, if_pos rfl, hsame.ledger, hexecute]
  · exact (carryOut_database _ _ _ _).trans hsame.database
  · exact (carryOut_isEnded _ _ _ _ _).trans (hsame.isEnded session)
  · have hlength := carryOut_sessions session collection command t
    rw [hsame.sessions] at hlength
    exact Nat.le_of_eq hlength.symm

/-- What a command that is carried out answers and leaves. -/
theorem carryOut_run (session : Option SessionNumber) (collection : String) (command : Command)
    (s : Host) :
    let docs := s.store.ledger.tablesFor session collection
    let outcome := command.run (s.store.database ++ "." ++ collection) s.store.freshIdentity docs
    (s.carryOut session collection command).1 = outcome.map Prod.fst ∧
      (s.carryOut session collection command).2.store.ledger.tablesFor session collection =
        (outcome.toOption.map Prod.snd).getD docs := by
  have hdocs := Store.visibleTables_eq s.store session
  refine ⟨by rw [← hdocs]; rfl, ?_⟩
  rw [carryOut_ledger session collection command s]
  cases hwrite : command.isWrite with
  | true =>
    rw [if_pos rfl, Ledger.tablesFor_put_self, Tables.execute]
    cases command.run _ _ (s.store.ledger.tablesFor session collection) with
    | error e => rfl
    | ok outcome => exact if_pos rfl
  | false =>
    rw [if_neg Bool.false_ne_true]
    cases hrun : command.run (s.store.database ++ "." ++ collection) s.store.freshIdentity
      (s.store.ledger.tablesFor session collection) with
    | error e => rfl
    | ok outcome => exact (Command.run_of_read hwrite hrun).symm

/-- What a command answers and leaves on a host that nothing disturbs. -/
theorem Undisturbed.issue_run (h : s.Undisturbed context)
    (hsession : s.store.isEnded session = false) (command : Command) :
    ∃ name fresh t,
      let docs := s.store.ledger.tablesFor session collection
      let outcome := command.run name fresh docs
      (issue context session collection command).on s = (outcome.map Prod.fst, t) ∧
        t.store.ledger.tablesFor session collection = (outcome.toOption.map Prod.snd).getD docs ∧
        t.Undisturbed context ∧ t.store.isEnded session = false := by
  obtain ⟨t, hsame, hundisturbed, hissue⟩ := h.issue_on hsession collection command
  obtain ⟨hanswer, hleft⟩ := carryOut_run session collection command t
  rw [hsame.ledger] at hanswer hleft
  refine ⟨t.store.database ++ "." ++ collection, t.store.freshIdentity,
    (t.carryOut session collection command).2, ?_, hleft, hundisturbed.carryOut _ _ _, ?_⟩
  · rw [hissue]
    exact Prod.ext hanswer rfl
  · rw [carryOut_isEnded, hsame.isEnded, hsession]

omit [Regex.Engine] in
theorem Wrote.sameData {docs : List Document} {t u : Host}
    (h : s.Wrote context session collection docs t) (hsame : t.SameData u)
    (hundisturbed : u.Undisturbed context) : s.Wrote context session collection docs u :=
  ⟨hundisturbed, hsame.ledger.trans h.ledger, hsame.database.trans h.database,
    (hsame.isEnded session).trans h.isEnded, by rw [hsame.sessions]; exact h.sessions⟩

end Host

namespace Collection

open Host Table

variable [PersistentObject α] {c : Collection} {s : Host} {id : ObjectId}
  {d : Document} {object : α}

/-- The documents that a collection shows. -/
def shown (c : Collection) (s : Host) : List Document :=
  s.store.ledger.tablesFor c.session c.name

/-- A timed call that writes. -/
theorem call_write (h : s.Undisturbed c.context) (hsession : s.store.isEnded c.session = false)
    {command : Command} (hwrite : command.isWrite = true) {reply : Reply} {docs : List Document}
    (hrun : ∀ name fresh, command.run name fresh (c.shown s) = .ok (reply, docs))
    (read : Reply → β) {action : StoreAction β}
    (haction : action = issue c.context c.session c.name command >>= fun reply => pure (read reply))
    (location : String) (filter : Option Document) (failure : StoreError → Failure) :
    ∃ t, (c.call location filter action failure).on s = (.ok (read reply), t) ∧
      s.Wrote c.context c.session c.name docs t := by
  obtain ⟨t, hissue, hwrote⟩ := h.issue_write hsession hwrite hrun
  have hread : action.on s = (.ok (read reply), t) := by
    rw [haction, StoreAction.on_bind_of_ok hissue]
    rfl
  obtain ⟨u, hcall, hsame, hundisturbed⟩ := c.call_on location filter action failure s
  rw [hread] at hcall hsame hundisturbed
  exact ⟨u, hcall, hwrote.sameData hsame (hundisturbed _ hwrote.undisturbed)⟩

theorem insertObject_on (h : s.Undisturbed c.context)
    (hsession : s.store.isEnded c.session = false) (henc : encode object = .ok d)
    (hid : d.get? "_id" = some (.objectId id)) (hlacks : Lacks (c.shown s) id) :
    ∃ docs t, (c.insertObject object).on s = (.ok (), t) ∧
      Stores (c.shown s) id (identified (.objectId id) d) docs ∧
      s.Wrote c.context c.session c.name docs t := by
  have hrun : ∀ name fresh, (Command.insert d).run name fresh (c.shown s) =
      .ok (.identity (.objectId id), c.shown s ++ [identified (.objectId id) d]) := by
    intro name fresh
    rw [Command.run, insert_of_lacks hlacks hid]
    rfl
  obtain ⟨t, hinsert, hwrote⟩ := call_write h hsession rfl hrun Reply.inserted
    (insert_eq_issue _ _ _ _) saveLocation none (.ofWrite saveLocation "unable to insert object")
  refine ⟨_, t, ?_, stores_append _ (get?_identified _ d), hwrote⟩
  rw [insertObject, Action.on_bind_of_ok (encodeObject_on henc s), Action.on_bind_of_ok hinsert]
  rfl

theorem replaceObject_on (h : s.Undisturbed c.context)
    (hsession : s.store.isEnded c.session = false) (hid : d.get? "_id" = some (.objectId id))
    (howns : Owns (c.shown s) (SaveStrategy.replace.finds id) id) :
    ∃ docs t, (c.replaceObject id d).on s = (.ok (), t) ∧
      Stores (c.shown s) id (identified (.objectId id) d) docs ∧
      s.Wrote c.context c.session c.name docs t := by
  let filter := SaveStrategy.replace.filter id
  obtain ⟨modified, docs, hreplace, hstores⟩ :=
    replace_of_owns (SaveStrategy.replace.matchesFilter_filter id) howns hid
  have hrun : ∀ name fresh, (Command.replace filter d).run name fresh (c.shown s) =
      .ok (.updated ⟨1, modified⟩, docs) := by
    intro name fresh
    rw [Command.run, hreplace]
    rfl
  obtain ⟨t, hresult, hwrote⟩ := call_write h hsession rfl hrun Reply.result
    (replace_eq_issue _ _ _ _ _) saveLocation (some filter) fun e =>
      (Failure.ofWrite saveLocation "unable to replace object" e).withDetail (filterDetail filter)
  refine ⟨docs, t, ?_, hstores, hwrote⟩
  rw [replaceObject]
  refine (Action.on_bind_of_ok hresult _).trans ?_
  rfl

theorem updateObject_on (h : s.Undisturbed c.context)
    (hsession : s.store.isEnded c.session = false) (hid : d.get? "_id" = some (.objectId id))
    (hplain : d.Plain) (howns : Owns (c.shown s) (SaveStrategy.guardedUpdate.finds id) id) :
    ∃ next docs t, (c.updateObject id d).on s = (.ok (), t) ∧ d.Bears .guardedUpdate next ∧
      Stores (c.shown s) id next docs ∧ s.Wrote c.context c.session c.name docs t := by
  let filter := SaveStrategy.guardedUpdate.filter id
  let changes : Document := [("$set", .document (d.erase "_id"))]
  have hfields := hplain.not_mem_erase "_id"
  obtain ⟨modified, old, next, docs, hupdate, hupdated, hold, hstores⟩ :=
    update_of_owns (SaveStrategy.guardedUpdate.matchesFilter_filter id) howns
      (hplain.erase "_id") hfields
  have hrun : ∀ name fresh, (Command.update filter changes).run name fresh (c.shown s) =
      .ok (.updated ⟨1, modified⟩, docs) := by
    intro name fresh
    rw [Command.run, hupdate]
    rfl
  obtain ⟨t, hresult, hwrote⟩ := call_write h hsession rfl hrun Reply.result
    (update_eq_issue _ _ _ _ _) saveLocation (some filter) fun e =>
      (Failure.ofWrite saveLocation "unable to update object" e).withDetail (filterDetail filter)
  refine ⟨next, docs, t, ?_, Document.bears_updated hid hold hfields hupdated, hstores, hwrote⟩
  rw [updateObject]
  refine (Action.on_bind_of_ok hresult _).trans ?_
  rfl

theorem overwrite_on (h : s.Undisturbed c.context) (hsession : s.store.isEnded c.session = false)
    (hobject : ObjectId.ofHex? (identity object) = some id) (henc : encode object = .ok d)
    (hid : d.get? "_id" = some (.objectId id))
    (hplain : c.settings.strategy = .guardedUpdate → d.Plain)
    (howns : Owns (c.shown s) (c.settings.strategy.finds id) id) :
    ∃ next docs t, (c.overwrite object).on s = (.ok (), t) ∧
      d.Bears c.settings.strategy next ∧ Stores (c.shown s) id next docs ∧
      s.Wrote c.context c.session c.name docs t := by
  rw [overwrite, Action.on_bind_of_ok (existingId_on hobject s),
    Action.on_bind_of_ok (encodeObject_on henc s)]
  cases hstrategy : c.settings.strategy with
  | replace =>
    rw [hstrategy] at howns
    obtain ⟨docs, t, hreplace, hstores, hwrote⟩ := replaceObject_on h hsession hid howns
    exact ⟨_, docs, t, hreplace, Document.bears_identified hid _, hstores, hwrote⟩
  | guardedUpdate =>
    rw [hstrategy] at howns
    exact updateObject_on h hsession hid (hplain hstrategy) howns

/-- What a timed call answers comes from the documents that it is shown. -/
theorem run_of_call_on {command : Command} {answer : Reply → StoreAction β} {location : String}
    {filter : Option Document} {failure : StoreError → Failure} {value : β} {t : Host}
    (h : (c.call location filter (issue c.context c.session c.name command >>= answer)
      failure).on s = (.ok value, t)) :
    ∃ name fresh reply docs u v, command.run name fresh (c.shown s) = .ok (reply, docs) ∧
      (answer reply).on u = (.ok value, v) := by
  let action := issue c.context c.session c.name command >>= answer
  obtain ⟨_, hcall, _⟩ := c.call_on location filter action failure s
  have hanswer := congrArg Prod.fst (hcall.symm.trans h)
  rcases haction : action.on s with ⟨e | a, v⟩
  · rw [haction] at hanswer
    cases hanswer
  · rw [haction] at hanswer
    cases hanswer
    obtain ⟨reply, u, hissue, hreply⟩ := StoreAction.exists_of_on_bind_eq_ok haction
    obtain ⟨name, fresh, docs, hrun⟩ := run_of_issue_on hissue
    exact ⟨name, fresh, reply, docs, u, v, hrun, hreply⟩

theorem replaceObject_of_lacks (hlacks : Lacks (c.shown s) id) (t : Host) :
    (c.replaceObject id d).on s ≠ (.ok (), t) := by
  intro hok
  rw [replaceObject] at hok
  obtain ⟨result, v, hcall, hend⟩ := Action.exists_of_on_bind_eq_ok hok
  obtain ⟨name, fresh, reply, docs, u, w, hrun, hreply⟩ := run_of_call_on hcall
  change (Command.replace (SaveStrategy.replace.filter id) d).run name fresh (c.shown s) = _
    at hrun
  rw [Command.run, replace_of_find?_eq_none (SaveStrategy.replace.matchesFilter_filter id)
    (find?_of_lacks hlacks fun _ => SaveStrategy.hasId_of_finds)] at hrun
  cases hrun
  cases hreply
  cases hend

theorem updateObject_of_lacks (hlacks : Lacks (c.shown s) id) (t : Host) :
    (c.updateObject id d).on s ≠ (.ok (), t) := by
  intro hok
  rw [updateObject] at hok
  obtain ⟨result, v, hcall, hend⟩ := Action.exists_of_on_bind_eq_ok hok
  obtain ⟨name, fresh, reply, docs, u, w, hrun, hreply⟩ := run_of_call_on hcall
  change (Command.update (SaveStrategy.guardedUpdate.filter id) _).run name fresh (c.shown s) = _
    at hrun
  rw [Command.run, update_of_find?_eq_none (SaveStrategy.guardedUpdate.matchesFilter_filter id)
    (find?_of_lacks hlacks fun _ => SaveStrategy.hasId_of_finds)] at hrun
  cases hrun
  cases hreply
  cases hend

/-- An object that counts as existing cannot be written where no document has its identity. -/
theorem overwrite_of_lacks (hobject : ObjectId.ofHex? (identity object) = some id)
    (hlacks : Lacks (c.shown s) id) (t : Host) : (c.overwrite object).on s ≠ (.ok (), t) := by
  intro hok
  rw [overwrite, Action.on_bind_of_ok (existingId_on hobject s)] at hok
  obtain ⟨d, u, henc, hwritten⟩ := Action.exists_of_on_bind_eq_ok hok
  have hu : u = s := by
    rw [encodeObject] at henc
    split at henc
    · cases henc
      rfl
    · cases henc
  subst hu
  cases hstrategy : c.settings.strategy with
  | replace =>
    rw [hstrategy] at hwritten
    exact replaceObject_of_lacks hlacks t hwritten
  | guardedUpdate =>
    rw [hstrategy] at hwritten
    exact updateObject_of_lacks hlacks t hwritten

variable [LawfulObject α]

/-- The documents are ready for an object: none has its identity if it is new, and the one that its
strategy looks for is there if it exists. -/
def Ready (strategy : SaveStrategy) (docs : List Document) (id : ObjectId) (object : α) : Prop :=
  if isNew object then Lacks docs id else Owns docs (strategy.finds id) id

/-- A save for which everything is ready succeeds, and stores the object with its stamps. -/
theorem save_of_ready (h : s.Undisturbed c.context) (hsession : s.store.isEnded c.session = false)
    (hstorable : Storable c.settings.strategy id object)
    (hready : Ready c.settings.strategy (c.shown s) id object) (note : String) :
    ∃ d next docs t, (c.save object note).run s = ((.ok (), stamp (clock s) note object), t) ∧
      encode (stamp (clock s) note object) = .ok d ∧ d.get? "_id" = some (.objectId id) ∧
      d.Bears c.settings.strategy next ∧ Stores (c.shown s) id next docs ∧
      s.Wrote c.context c.session c.name docs t := by
  have hstamped := storable_stamp hstorable (clock s) note
  obtain ⟨j, hj⟩ := stamp_eq (clock s) note object
  obtain ⟨d, henc, hid, hplain⟩ := hstorable.encodes j
  rw [← hj] at henc
  unfold Ready at hready
  rw [save_run]
  cases hnew : isNew object with
  | true =>
    rw [if_pos hnew] at hready
    obtain ⟨docs, t, hput, hstores, hwrote⟩ := insertObject_on h hsession henc hid hready
    have hpath : (c.put true (stamp (clock s) note object)).on s = (.ok (), t) := hput
    rw [hpath]
    exact ⟨d, _, docs, t, rfl, henc, hid, Document.bears_identified hid _, hstores, hwrote⟩
  | false =>
    rw [if_neg (by rw [hnew]; nofun)] at hready
    obtain ⟨next, docs, t, hput, hbears, hstores, hwrote⟩ :=
      overwrite_on h hsession hstamped.identity henc hid hplain hready
    have hpath : (c.put false (stamp (clock s) note object)).on s = (.ok (), t) := hput
    rw [hpath]
    exact ⟨d, next, docs, t, rfl, henc, hid, hbears, hstores, hwrote⟩

/-- Whatever the host does, a save of an object that counts as existing fails where no document has
its identity. -/
theorem save_of_lacks (hnew : isNew object = false)
    (hobject : ObjectId.ofHex? (identity object) = some id) (hlacks : Lacks (c.shown s) id)
    (note : String) : ∃ e t, (c.save object note).run s = ((.error e, object), t) := by
  have hstamped : ObjectId.ofHex? (identity (stamp (clock s) note object)) = some id := by
    rw [identity_stamp, hobject]
  rw [save_run, hnew]
  rcases hput : (c.put false (stamp (clock s) note object)).on s with ⟨e | u, t⟩
  · exact ⟨e, t, rfl⟩
  · exact absurd hput (overwrite_of_lacks hstamped hlacks t)

end Collection

end DocStore
