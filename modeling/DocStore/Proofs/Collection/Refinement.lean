import DocStore.Proofs.Collection.RosterDocuments
import DocStore.Regex.Default
/-!
Collections refine rosters. On a host that nothing disturbs, a collection that replaces what it saves
answers every request as a roster does, and its documents are those of the objects in the roster.
-/
namespace DocStore

section

open PersistentObject (identity setJournal modifyJournal isNew encode)

theorem Action.on_eq_of_fst {action : Action α} {s : Host} {answer : Except Failure α}
    (h : (action.on s).1 = answer) : action.on s = (answer, (action.on s).2) :=
  Prod.ext h rfl

variable [Regex.Engine]

namespace Collection

open Host

/-- The documents that a client of a collection works with on a host that nothing disturbs. -/
structure Holds (c : Collection) (docs : List Document) (s : Host) : Prop where
  undisturbed : s.Undisturbed c.context
  isEnded : s.store.isEnded c.session = false
  shown : c.shown s = docs

variable {c : Collection} {s : Host}

/-- A timed call answers what its command does, and leaves what that leaves. -/
theorem Holds.call_on {docs : List Document} (h : c.Holds docs s) (command : Command)
    (read : Reply → β) {action : StoreAction β}
    (haction : action = issue c.context c.session c.name command >>= fun reply => pure (read reply))
    (location : String) (filter : Option Document) (failure : StoreError → Failure) :
    ∃ name fresh,
      let outcome := command.run name fresh docs
      let call := (c.call location filter action failure).on s
      call.1 = (outcome.map fun p => read p.1).mapError failure ∧
        c.Holds ((outcome.toOption.map Prod.snd).getD docs) call.2 := by
  obtain ⟨name, fresh, t, hissue, hleft, hundisturbed, hended⟩ :=
    h.undisturbed.issue_run h.isEnded command
  have hshown : s.store.ledger.tablesFor c.session c.name = docs := h.shown
  rw [hshown] at hissue hleft
  have hread : action.on s = ((command.run name fresh docs).map fun p => read p.1, t) := by
    rw [haction, StoreAction.on_bind, hissue]
    cases command.run name fresh docs with
    | error e => rfl
    | ok p => rfl
  obtain ⟨u, hcall, hsame, hcalled⟩ := c.call_on location filter action failure s
  rw [hread] at hcall hsame hcalled
  refine ⟨name, fresh, congrArg Prod.fst hcall, ?_⟩
  rw [hcall]
  refine ⟨hcalled _ hundisturbed, (hsame.isEnded _).trans hended, ?_⟩
  rw [Collection.shown, hsame.ledger]
  exact hleft

variable [PersistentObject α] {r : Roster α} {id : ObjectId} {object : α} {d : Document}

section Put

variable (h : c.Holds r.documents s) (henc : encode object = .ok d)
  (hid : d.get? "_id" = some (.objectId id))
include h henc hid

theorem Holds.insertObject_on :
    ((c.insertObject object).on s).1.mapError Failure.kind =
        (r.write true id object).map (fun _ => ()) ∧
      c.Holds ((r.write true id object).toOption.getD r).documents
        ((c.insertObject object).on s).2 := by
  obtain ⟨name, fresh, hanswer, hholds⟩ := h.call_on (.insert d) Reply.inserted
    (insert_eq_issue _ _ _ _) saveLocation none (.ofWrite saveLocation "unable to insert object")
  rw [Command.run] at hanswer hholds
  rw [insertObject, Action.on_bind_of_ok (encodeObject_on henc s), Action.on_bind]
  by_cases hmem : id ∈ r.ids
  · rw [Roster.insert_documents_of_mem hid hmem] at hanswer hholds
    rw [Action.on_eq_of_fst hanswer, Roster.write, dif_pos hmem]
    exact ⟨rfl, hholds⟩
  · rw [Roster.insert_documents henc hid hmem] at hanswer hholds
    rw [Action.on_eq_of_fst hanswer, Roster.write, dif_neg hmem]
    exact ⟨rfl, hholds⟩

theorem Holds.replaceObject_on :
    ((c.replaceObject id d).on s).1.mapError Failure.kind =
        (r.write false id object).map (fun _ => ()) ∧
      c.Holds ((r.write false id object).toOption.getD r).documents
        ((c.replaceObject id d).on s).2 := by
  let filter := SaveStrategy.replace.filter id
  let failure := fun e =>
    (Failure.ofWrite saveLocation "unable to replace object" e).withDetail (filterDetail filter)
  obtain ⟨name, fresh, hanswer, hholds⟩ := h.call_on (.replace filter d) Reply.result
    (replace_eq_issue _ _ _ _ _) saveLocation (some filter) failure
  rw [Command.run] at hanswer hholds
  have hbind : (c.replaceObject id d).on s = _ := Action.on_bind (c.call saveLocation (some filter)
    (Host.replace c.context c.session c.name filter d) failure) _ s
  rw [hbind]
  by_cases hmem : id ∈ r.ids
  · obtain ⟨modified, hreplace⟩ := Roster.replace_documents henc hid hmem
    rw [hreplace] at hanswer hholds
    rw [Action.on_eq_of_fst hanswer, Roster.write, dif_pos hmem]
    exact ⟨rfl, hholds⟩
  · rw [Table.replace_of_find?_eq_none (SaveStrategy.replace.matchesFilter_filter id)
      (Roster.lacks_of_not_mem hmem)] at hanswer hholds
    rw [Action.on_eq_of_fst hanswer, Roster.write, dif_neg hmem]
    exact ⟨rfl, hholds⟩

end Put

theorem Holds.put_on (h : c.Holds r.documents s) (hstrategy : c.settings.strategy = .replace)
    (hobject : ObjectId.ofHex? (identity object) = some id) (henc : encode object = .ok d)
    (hid : d.get? "_id" = some (.objectId id)) (new : Bool) :
    ((c.put new object).on s).1.mapError Failure.kind =
        (r.write new id object).map (fun _ => ()) ∧
      c.Holds ((r.write new id object).toOption.getD r).documents ((c.put new object).on s).2 := by
  cases new with
  | true => exact h.insertObject_on henc hid
  | false =>
    have hput : (c.put false object).on s = (c.replaceObject id d).on s := by
      change (c.overwrite object).on s = _
      rw [overwrite, Action.on_bind_of_ok (existingId_on hobject s),
        Action.on_bind_of_ok (encodeObject_on henc s), hstrategy]
    rw [hput]
    exact h.replaceObject_on henc hid

theorem Holds.hardDelete_on (h : c.Holds r.documents s) (criteria : Expression) :
    let expected := r.serve (clock s) (.hardDelete criteria)
    let removed := (c.hardDelete criteria).on s
    .removed (removed.1.mapError Failure.kind) = expected.1 ∧
      c.Holds expected.2.documents removed.2 := by
  obtain ⟨name, fresh, hanswer, hholds⟩ := h.call_on (.delete criteria.toFilter) Reply.count
    (delete_eq_issue _ _ _ _) hardDeleteLocation (some criteria.toFilter) fun e =>
      (Failure.ofStore hardDeleteLocation "unable to delete documents" e).withDetail
        (filterDetail criteria.toFilter)
  have hreject := r.reject_documents criteria.toFilter
  rw [Command.run] at hanswer hholds
  simp only [hardDelete, Roster.serve]
  split at hreject
  · rename_i hall
    rw [if_pos hall]
    cases hkept : Table.reject criteria.toFilter r.documents with
    | error e =>
      rw [hkept] at hreject
      cases hreject
    | ok kept =>
      rw [hkept] at hreject hanswer hholds
      cases hreject
      rw [hanswer]
      refine ⟨?_, hholds⟩
      simp only [Roster.documents, bind, Except.bind, pure, Except.pure, Except.map, Except.mapError,
        Reply.count, List.length_map]
  · rename_i hall
    rw [if_neg hall]
    cases hkept : Table.reject criteria.toFilter r.documents with
    | ok kept =>
      rw [hkept] at hreject
      cases hreject
    | error e =>
      rw [hkept] at hanswer hholds
      rw [hanswer]
      exact ⟨rfl, hholds⟩

theorem Holds.count_on (h : c.Holds r.documents s) :
    ((c.count .everything).on s).1 = .ok r.entries.length ∧
      c.Holds r.documents ((c.count .everything).on s).2 := by
  obtain ⟨name, fresh, hanswer, hholds⟩ := h.call_on (.count Expression.everything.toFilter)
    Reply.count (count_eq_issue _ _ _ _) countLocation (some Expression.everything.toFilter)
    fun e => (Failure.ofStore countLocation "unable to count documents" e).withDetail
      (filterDetail Expression.everything.toFilter)
  rw [Command.run, Roster.select_everything] at hanswer hholds
  refine ⟨?_, hholds⟩
  have hlength : r.documents.length = r.entries.length := List.length_map _
  rw [← hlength]
  exact hanswer

theorem Holds.load_on [Decodable α] (h : c.Holds r.documents s)
    (hreadable : ∀ e ∈ r.entries, Readable e.1 e.2) (id : ObjectId) :
    let expected := r.serve (clock s) (.load id)
    let loaded := (c.load (.equal "_id" (.objectId id)) [] : Action α).on s
    .loaded (loaded.1.mapError Failure.kind) = expected.1 ∧
      c.Holds expected.2.documents loaded.2 := by
  let filter := (Expression.equal "_id" (.objectId id)).toFilter
  let failure := fun e =>
    (Failure.ofStore loadLocation "unable to load document" e).withDetail (filterDetail filter)
  obtain ⟨name, fresh, hanswer, hholds⟩ := h.call_on (.findOne filter {}) Reply.document
    (findOne_eq_issue _ _ _ _ none) loadLocation (some filter) failure
  rw [Command.run, Roster.findOne_documents] at hanswer hholds
  have hbind : (c.load (.equal "_id" (.objectId id)) [] : Action α).on s = _ :=
    Action.on_bind (c.call loadLocation (some filter)
      (Host.findOne c.context c.session c.name filter none) failure) _ s
  simp only [hbind, Roster.serve]
  rw [Action.on_eq_of_fst hanswer]
  cases hfound : r.find? id with
  | none => exact ⟨rfl, hholds⟩
  | some object =>
    have hreads := (hreadable _ (Roster.mem_of_find? hfound)).reads
    dsimp only [Option.map_some, Except.map, bind, Except.bind, pure, Except.pure, Reply.document,
      Except.mapError] at hholds ⊢
    rw [hreads]
    exact ⟨rfl, hholds⟩

variable [Decodable α] [LawfulObject α]

/-- A save comes to the same as in the roster. -/
theorem Holds.save_run (h : c.Holds r.documents s) (hstrategy : c.settings.strategy = .replace)
    (hobject : Faithful object) (note : String) :
    let expected := r.save (clock s) object note
    let saved := (c.save object note).run s
    saved.1.1.mapError Failure.kind = expected.1 ∧ saved.1.2 = expected.2.1 ∧
      c.Holds expected.2.2.documents saved.2 := by
  intro expected saved
  obtain ⟨id, hreadable⟩ := hobject.stamp (clock s) note
  obtain ⟨d, henc, hid⟩ := hreadable.encodes
  obtain ⟨hanswer, hholds⟩ := h.put_on hstrategy hreadable.identity henc hid (isNew object)
  have hidentity : ObjectId.ofHex? (identity object) = some id := by
    rw [← identity_stamp (clock s) note]
    exact hreadable.identity
  have hsaved : saved = _ := Collection.save_run c object note s
  change saved.1.1.mapError Failure.kind = (r.save (clock s) object note).1 ∧
    saved.1.2 = (r.save (clock s) object note).2.1 ∧
      c.Holds (r.save (clock s) object note).2.2.documents saved.2
  rw [hsaved, Roster.save, hidentity]
  dsimp only
  rcases hput : (c.put (isNew object) (Collection.stamp (clock s) note object)).on s with ⟨e | u, t⟩
  · rw [hput] at hanswer hholds
    cases hwrite : r.write (isNew object) id (Collection.stamp (clock s) note object) with
    | error kind =>
      rw [hwrite] at hanswer hholds
      exact ⟨hanswer, rfl, hholds⟩
    | ok r' =>
      rw [hwrite] at hanswer
      cases hanswer
  · rw [hput] at hanswer hholds
    cases hwrite : r.write (isNew object) id (Collection.stamp (clock s) note object) with
    | error kind =>
      rw [hwrite] at hanswer
      cases hanswer
    | ok r' =>
      rw [hwrite] at hanswer hholds
      exact ⟨rfl, rfl, hholds⟩

theorem Holds.delete_run (h : c.Holds r.documents s) (hstrategy : c.settings.strategy = .replace)
    (hobject : Faithful object) (note : String) :
    let expected := r.serve (clock s) (.delete object note)
    let deleted := (c.delete object note).run s
    .saved (deleted.1.1.mapError Failure.kind) deleted.1.2 = expected.1 ∧
      c.Holds expected.2.documents deleted.2 := by
  cases hnew : isNew object with
  | true =>
    have hdeleted : (c.delete object note).run s =
        ((.error (.badRequest deleteLocation "object has never been saved"), object), s) := by
      rw [delete, if_pos hnew]
      rfl
    simp only [hdeleted, Roster.serve, hnew, if_true]
    exact ⟨rfl, h⟩
  | false =>
    let marked := PersistentObject.modifyJournal (·.deleted (clock s) note) object
    obtain ⟨hanswer, hafter, hholds⟩ := h.save_run hstrategy (hobject.modifyJournal _) note
    rcases hsave : (c.save marked note).run s with ⟨⟨answer, after⟩, t⟩
    rcases hexpected : r.save (clock s) marked note with ⟨result, after', r'⟩
    rw [hsave, hexpected] at hanswer hafter hholds
    cases hafter
    have hserve : r.serve (clock s) (.delete object note) =
        (.saved result (if result.isOk then after else object), r') := by
      rw [Roster.serve, if_neg (ne_true_of_eq_false hnew), hexpected]
      cases result <;> rfl
    simp only [hserve, delete_run_of_save hnew hsave]
    cases answer with
    | error e =>
      cases hanswer
      exact ⟨rfl, hholds⟩
    | ok u =>
      cases hanswer
      exact ⟨rfl, hholds⟩

/-- A request is answered as by the roster, and leaves what it leaves there. -/
theorem Holds.serve_run (h : c.Holds r.documents s) (hstrategy : c.settings.strategy = .replace)
    (hreadable : ∀ e ∈ r.entries, Readable e.1 e.2) {request : Request α}
    (hrequest : request.Faithful) :
    ((c.serve request).run s).1 = (r.serve (clock s) request).1 ∧
      c.Holds (r.serve (clock s) request).2.documents ((c.serve request).run s).2 := by
  cases request with
  | save object note =>
    obtain ⟨hanswer, hafter, hholds⟩ := h.save_run hstrategy hrequest note
    exact ⟨congr (congrArg Response.saved hanswer) hafter, hholds⟩
  | delete object note => exact h.delete_run hstrategy hrequest note
  | hardDelete criteria => exact h.hardDelete_on criteria
  | load id => exact h.load_on hreadable id
  | count =>
    obtain ⟨hanswer, hholds⟩ := h.count_on
    refine ⟨?_, hholds⟩
    change Response.counted (((c.count .everything).on s).1.mapError Failure.kind) = _
    rw [hanswer]
    rfl

/-- What goes on between two requests. Other clients may do anything that neither concerns the
documents of the collection nor disturbs the host. -/
structure Interlude (c : Collection) where
  change : Host → Host
  shown (s : Host) : c.shown (change s) = c.shown s
  undisturbed (s : Host) : s.Undisturbed c.context → (change s).Undisturbed c.context

omit [Regex.Engine] in
theorem Holds.interlude {docs : List Document} (h : c.Holds docs s)
    (hsession : c.session = none) (interlude : Interlude c) : c.Holds docs (interlude.change s) := by
  refine ⟨interlude.undisturbed s h.undisturbed, ?_, (interlude.shown s).trans h.shown⟩
  rw [hsession]
  rfl

end Collection

/-- A request that was answered at some time. -/
structure Served (α : Type) where
  now : Int64
  request : Request α
  response : Response α

namespace Collection

open Host

variable [PersistentObject α] [Decodable α]

/-- Answers requests one after the other, each after an interlude. -/
def serveAll (c : Collection) (s : Host) :
    List (Interlude c × Request α) → List (Served α) × Host
  | [] => ([], s)
  | (interlude, request) :: rest =>
    let s := interlude.change s
    let (response, t) := (c.serve request).run s
    let (served, u) := serveAll c t rest
    (⟨clock s, request, response⟩ :: served, u)

variable [LawfulObject α] {c : Collection} {s : Host} {r : Roster α}

/-- Requests leave readable objects behind. -/
theorem readable_serve {now : Int64} {request : Request α} (hrequest : request.Faithful)
    (hreadable : ∀ e ∈ r.entries, Readable e.1 e.2) :
    ∀ e ∈ (r.serve now request).2.entries, Readable e.1 e.2 := by
  apply Roster.forall_serve hreadable
  intro object id hwritten hid
  have hfound : ∃ id, Readable id object := by
    cases request with
    | save object' note =>
      cases hwritten
      exact Faithful.stamp hrequest _ _
    | delete object' note =>
      cases hwritten
      exact (Faithful.modifyJournal hrequest _).stamp _ _
    | hardDelete criteria | load id | count => cases hwritten
  obtain ⟨id', hread⟩ := hfound
  rw [← Option.some.inj (hread.identity.symm.trans hid)]
  exact hread

omit [Decodable α] in
theorem existing_serve {now : Int64} {request : Request α} (hnow : now ≠ 0)
    (hexisting : ∀ e ∈ r.entries, isNew e.2 = false) :
    ∀ e ∈ (r.serve now request).2.entries, isNew e.2 = false := by
  have hstamped : ∀ (note : String) (object : α),
      isNew (Collection.stamp now note object) = false := by
    intro note object
    rw [isNew_stamp, beq_eq_false_iff_ne.2 hnow, Bool.and_false]
  apply Roster.forall_serve (P := fun _ object => isNew object = false) hexisting
  intro object id hwritten _
  cases request with
  | save object' note | delete object' note =>
    cases hwritten
    exact hstamped _ _
  | hardDelete criteria | load id | count => cases hwritten

theorem Holds.serveAll (h : c.Holds r.documents s) (hsession : c.session = none)
    (hstrategy : c.settings.strategy = .replace) (hreadable : ∀ e ∈ r.entries, Readable e.1 e.2)
    {turns : List (Interlude c × Request α)} (hturns : ∀ turn ∈ turns, turn.2.Faithful) :
    let (served, t) := c.serveAll s turns
    let (responses, r') := r.serveAll (served.map fun x => (x.now, x.request))
    served.map Served.request = turns.map Prod.snd ∧ served.map Served.response = responses ∧
      c.Holds r'.documents t ∧ (∀ e ∈ r'.entries, Readable e.1 e.2) ∧
      ((∀ x ∈ served, x.now ≠ 0) → (∀ e ∈ r.entries, isNew e.2 = false) →
        ∀ e ∈ r'.entries, isNew e.2 = false) := by
  induction turns generalizing r s with
  | nil => exact ⟨rfl, rfl, h, hreadable, fun _ hexisting => hexisting⟩
  | cons turn rest ih =>
    obtain ⟨interlude, request⟩ := turn
    obtain ⟨hrequest, hrest⟩ := List.forall_mem_cons.1 hturns
    obtain ⟨hresponse, hholds⟩ :=
      (h.interlude hsession interlude).serve_run hstrategy hreadable hrequest
    obtain ⟨hrequests, hresponses, hleft, hread, hexisting⟩ :=
      ih hholds (readable_serve hrequest hreadable) hrest
    refine ⟨congrArg (List.cons request) hrequests, ?_, hleft, hread, ?_⟩
    · exact congr (congrArg List.cons hresponse) hresponses
    · intro hnow hold
      obtain ⟨hfirst, hlater⟩ := List.forall_mem_cons.1 hnow
      exact hexisting hlater (existing_serve hfirst hold)

end Collection

/-- A collection that replaces what it saves refines a roster. Whatever requests come, with anything
going on in between that does not concern its documents, it answers each of them as the roster does at
that time, and in the end its documents are those of the objects in the roster, each of which is read
again as it is. While the clock does not stand at zero none of these objects counts as new. -/
theorem serveAll_refines [PersistentObject α] [Decodable α] [LawfulObject α] (c : Collection)
    (hsession : c.session = none) (hstrategy : c.settings.strategy = .replace) (s : Host)
    (hs : s.Undisturbed c.context) (hempty : s.store.tables c.name = [])
    (turns : List (c.Interlude × Request α)) (hturns : ∀ turn ∈ turns, turn.2.Faithful) :
    let served := (c.serveAll s turns).1
    let expected := Roster.empty.serveAll (served.map fun x => (x.now, x.request))
    served.map Served.request = turns.map Prod.snd ∧ served.map Served.response = expected.1 ∧
      (c.serveAll s turns).2.store.tables c.name = expected.2.documents ∧
      (∀ e ∈ expected.2.entries, Readable e.1 e.2) ∧
      ((∀ x ∈ served, x.now ≠ 0) → ∀ e ∈ expected.2.entries, isNew e.2 = false) := by
  have houtside : ∀ s : Host, c.shown s = s.store.tables c.name := by
    intro s
    rw [Collection.shown, hsession]
    rfl
  have hholds : c.Holds (Roster.empty : Roster α).documents s := by
    refine ⟨hs, ?_, (houtside s).trans hempty⟩
    rw [hsession]
    rfl
  obtain ⟨hrequests, hresponses, hleft, hreadable, hexisting⟩ :=
    hholds.serveAll hsession hstrategy nofun hturns
  exact ⟨hrequests, hresponses, (houtside _).symm.trans hleft.shown, hreadable,
    fun hnow => hexisting hnow nofun⟩

/-- Nothing goes on between two requests. -/
def Collection.Interlude.idle (c : Collection) : Interlude c := ⟨id, fun _ => rfl, fun _ => id⟩

def cardId : ObjectId := ⟨1⟩

def card (journal : Journal) : Record :=
  ⟨[("_id", .objectId cardId), ("title", .string "tea")], journal⟩

def cards : Collection := ⟨"cards", .background, none, {}⟩

def cardHost : Host := { store := { database := "main" }, timeline := { now := nanosPerSecond } }

/-- A card is loaded before it was saved, and saved twice as a new one. -/
def cardTurns : List (cards.Interlude × Request Record) :=
  [.load cardId, .save (card {}) "", .save (card {}) "", .delete (card {}) "", .load cardId,
    .count].map fun request => (.idle cards, request)

end

open scoped Regex
open PersistentObject (identity setJournal modifyJournal isNew encode)

/-- The second card is refused, and the first is the one that is loaded. -/
theorem serveAll_refines_duplicate :
    let saved := card { createDate := 1000, updateDate := 1000, revision := 1 }
    let served := (cards.serveAll cardHost cardTurns).1
    cardHost.Undisturbed cards.context ∧ (∀ turn ∈ cardTurns, turn.2.Faithful) ∧
      served.map Served.response =
        [.loaded (.error .notFound), .saved (.ok ()) saved,
          .saved (.error .badRequest) (card {}), .saved (.error .badRequest) (card {}),
          .loaded (.ok saved), .counted (.ok 1)] ∧
      (cards.serveAll cardHost cardTurns).2.store.tables "cards" = [storedAs cardId saved] := by
  have hhost : cardHost.Undisturbed cards.context := ⟨rfl, rfl, fun _ _ => rfl⟩
  have hcard : Faithful (card {}) := Record.faithful (by decide) cardId {}
  have hturns : ∀ turn ∈ cardTurns, turn.2.Faithful := by
    simp only [cardTurns, List.map_cons, List.map_nil, List.forall_mem_cons]
    exact ⟨trivial, hcard, hcard, hcard, trivial, trivial, nofun⟩
  have htimes : ((cards.serveAll cardHost cardTurns).1.map fun x => (x.now, x.request)) =
      cardTurns.map fun turn => (1000, turn.2) := rfl
  obtain ⟨_, hresponses, hleft, _⟩ :=
    serveAll_refines cards rfl rfl cardHost hhost rfl cardTurns hturns
  rw [htimes] at hresponses hleft
  exact ⟨hhost, hturns, hresponses, hleft⟩

end DocStore
