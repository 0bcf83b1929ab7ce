import DocStore.Proofs.Collection.Composition
import DocStore.Proofs.Collection.Guarding
import DocStore.Proofs.Document.Replay
import DocStore.Proofs.Store.Selection
import DocStore.Regex.Default
/-!
Saving again what has been saved. A client that does not learn of the success of a guarded save may
repeat it. The document is then as the repeated save alone would have left it, and so it is the same
as before if nothing of the object has changed, its stamps included. If the first save has marked the
document as deleted, the second one does not find it any more.
-/
namespace DocStore

section

open PersistentObject (identity setJournal isNew encode)

namespace Document

variable {d d' old next last : Document}

/-- What a guarded save of an object that has one document makes of another one. -/
def Saves (d old next : Document) : Prop :=
  ∃ changed, old.applyUpdate [("$set", .document (d.erase "_id"))] = .ok (next, changed)

theorem Saves.again (h : d.Saves old next) (hkeys : d'.keys = d.keys) (h' : d'.Saves next last) :
    d'.Saves old last := by
  obtain ⟨changed, h⟩ := h
  obtain ⟨changed', h'⟩ := h'
  have hnames : (d'.erase "_id").keys = (d.erase "_id").keys := by
    rw [keys_erase, keys_erase, hkeys]
  obtain ⟨last', again, once, hagain, honce⟩ := applyUpdate_set_set hnames h
  cases h'.symm.trans hagain
  exact ⟨once, honce⟩

theorem Saves.unique (h : d.Saves old next) (h' : d.Saves old last) : last = next := by
  obtain ⟨changed, h⟩ := h
  obtain ⟨changed', h'⟩ := h'
  cases h.symm.trans h'
  rfl

end Document

variable [Regex.Engine]

namespace Table

variable {id : ObjectId} {d d' old next : Document} {docs docs' first rest : List Document}
  {result : UpdateResult}

/-- A guarded save leaves all documents as they are, or puts another one in the place of the first one
that it finds. -/
theorem exists_of_guardedUpdate
    (h : update (SaveStrategy.guardedUpdate.filter id) [("$set", .document (d.erase "_id"))] docs =
      .ok (result, docs')) :
    (result.matched = 0 ∧ docs' = docs) ∨ ∃ first old next rest,
      FirstMatch .exact (SaveStrategy.guardedUpdate.filter id) docs first old rest ∧
        d.Saves old next ∧ docs' = first ++ next :: rest := by
  have hfilter := SaveStrategy.guardedUpdate.matchesFilter_filter id
  cases hfind : docs.find? (SaveStrategy.guardedUpdate.finds id) with
  | none =>
    rw [update_of_find?_eq_none hfilter hfind] at h
    cases h
    exact .inl ⟨rfl, rfl⟩
  | some old =>
    obtain ⟨hold, first, rest, hdocs, hpassed⟩ := List.find?_eq_some_iff_append.1 hfind
    have hfirst := firstMatch_of_verdicts (fun x _ => hfilter x) hdocs
      (fun x hx => by simpa using hpassed x hx) hold
    rw [hfirst.update_eq] at h
    cases happly : old.applyUpdate [("$set", .document (d.erase "_id"))] with
    | error e =>
      rw [happly] at h
      cases h
    | ok updated =>
      rw [happly] at h
      cases h
      exact .inr ⟨first, old, updated.1, rest, hfirst, ⟨updated.2, happly⟩, rfl⟩

/-- A guarded save where none of the first documents is found. -/
theorem exists_of_guardedUpdate_again
    (hpassed : ∀ x ∈ first, x.matchesFilter .exact (SaveStrategy.guardedUpdate.filter id) = .ok false)
    (h : update (SaveStrategy.guardedUpdate.filter id) [("$set", .document (d.erase "_id"))]
      (first ++ next :: rest) = .ok (result, docs')) :
    ∃ last more, docs' = first ++ last :: more ∧ (last = next ∨ d.Saves next last) ∧
      (more = rest ∨ ∃ x ∈ rest, SaveStrategy.guardedUpdate.finds id x = true) := by
  obtain ⟨-, rfl⟩ | ⟨first', old, last, rest', hfirst, hsaves, rfl⟩ := exists_of_guardedUpdate h
  · exact ⟨next, rest, rfl, .inl rfl, .inl rfl⟩
  obtain ⟨hdocs, -, hold⟩ := hfirst
  rcases List.append_eq_append_iff.1 hdocs with ⟨between, rfl, hrest⟩ | ⟨between, rfl, hrest⟩
  · cases between with
    | nil =>
      cases hrest
      exact ⟨last, rest, by rw [List.append_nil], .inr hsaves, .inl rfl⟩
    | cons x between =>
      cases hrest
      refine ⟨next, between ++ last :: rest', ?_, .inl rfl, .inr ⟨old, ?_, ?_⟩⟩
      · rw [List.append_assoc, List.cons_append]
      · exact List.mem_append_right _ List.mem_cons_self
      · rw [SaveStrategy.matchesFilter_filter] at hold
        exact Except.ok.inj hold
  · cases between with
    | nil =>
      cases hrest
      exact ⟨last, rest, by rw [List.append_nil], .inr hsaves, .inl rfl⟩
    | cons x between =>
      cases hrest
      -- The document that is found would be one of the first ones.
      have hfalse := hpassed old (List.mem_append_right _ List.mem_cons_self)
      cases hold.symm.trans hfalse

end Table

/-- What a command leaves if it is carried out, and otherwise nothing is different. -/
theorem Host.issue_left (context : Context) (session : Option SessionNumber) (collection : String)
    (command : Command) (s : Host) :
    let docs := s.store.ledger.tablesFor session collection
    let left := ((issue context session collection command).on s).2.store.ledger.tablesFor session
      collection
    left = docs ∨ ∃ name fresh reply, command.run name fresh docs = .ok (reply, left) := by
  obtain ⟨checked, points, timeline, hadmission⟩ := admission_on context session command.operation s
  have hsame := sameData_attempted command.operation points timeline s
  rw [issue_on, hadmission]
  cases checked with
  | error e => exact .inl (by rw [hsame.ledger])
  | ok u =>
    obtain ⟨-, hleft⟩ := carryOut_run session collection command
      ((s.attempted command.operation).later points timeline)
    rw [hsame.ledger] at hleft
    dsimp only
    rw [hleft]
    generalize ((s.attempted command.operation).later points timeline).store = store
    cases hrun : command.run (store.database ++ "." ++ collection) store.freshIdentity
      (s.store.ledger.tablesFor session collection) with
    | error e => exact .inl rfl
    | ok outcome => exact .inr ⟨_, _, outcome.1, hrun⟩

namespace Collection

open Host Table

variable {α : Type} [PersistentObject α] {c : Collection} {id : ObjectId} {d : Document} {object : α}

theorem shown_updateObject (c : Collection) (id : ObjectId) (d : Document) (u : Host) :
    let left := c.shown ((c.updateObject id d).on u).2
    left = c.shown u ∨ ∃ result, update (SaveStrategy.guardedUpdate.filter id)
      [("$set", .document (d.erase "_id"))] (c.shown u) = .ok (result, left) := by
  let filter := SaveStrategy.guardedUpdate.filter id
  let changes : Document := [("$set", .document (d.erase "_id"))]
  let action := Host.update c.context c.session c.name filter changes
  let failure := fun e =>
    (Failure.ofWrite saveLocation "unable to update object" e).withDetail (filterDetail filter)
  have hcheck : ((c.updateObject id d).on u).2 =
      ((c.call saveLocation (some filter) action failure).on u).2 := by
    have hbind : (c.updateObject id d).on u = _ :=
      Action.on_bind (c.call saveLocation (some filter) action failure) _ u
    rw [hbind]
    rcases (c.call saveLocation (some filter) action failure).on u with ⟨e | result, v⟩
    · rfl
    · dsimp only
      split <;> rfl
  obtain ⟨v, hcall, hsame, -⟩ := c.call_on saveLocation (some filter) action failure u
  have hissue : (action.on u).2 = _ := update_on_snd filter changes
  have hshown : c.shown v =
      ((issue c.context c.session c.name (.update filter changes)).on u).2.store.ledger.tablesFor
        c.session c.name := by
    rw [shown, hsame.ledger, hissue]
  dsimp only
  rw [hcheck, hcall, hshown]
  obtain hleft | ⟨name, fresh, reply, hrun⟩ :=
    issue_left c.context c.session c.name (.update filter changes) u
  · exact .inl hleft
  · obtain ⟨⟨result, docs⟩, hupdate, hend⟩ := exists_of_bind_eq_ok hrun
    cases hend
    exact .inr ⟨result, hupdate⟩

theorem shown_overwrite (hstrategy : c.settings.strategy = .guardedUpdate)
    (hid : ObjectId.ofHex? (identity object) = some id) (u : Host) :
    let left := c.shown ((c.overwrite object).on u).2
    left = c.shown u ∨ ∃ d result, encode object = .ok d ∧
      update (SaveStrategy.guardedUpdate.filter id) [("$set", .document (d.erase "_id"))]
        (c.shown u) = .ok (result, left) := by
  dsimp only
  rw [overwrite, Action.on_bind_of_ok (existingId_on hid u)]
  cases henc : encode object with
  | error reason =>
    left
    rw [encodeObject, henc]
    rfl
  | ok d =>
    rw [Action.on_bind_of_ok (encodeObject_on henc u), hstrategy]
    refine (shown_updateObject c id d u).imp_right ?_
    rintro ⟨result, hupdate⟩
    exact ⟨d, result, rfl, hupdate⟩

/-- An object that was written has been found, and its document has been put in place. -/
theorem exists_of_overwrite_ok {s t : Host} (hstrategy : c.settings.strategy = .guardedUpdate)
    (hid : ObjectId.ofHex? (identity object) = some id)
    (h : (c.overwrite object).on s = (.ok (), t)) :
    ∃ d first old next rest, encode object = .ok d ∧
      FirstMatch .exact (SaveStrategy.guardedUpdate.filter id) (c.shown s) first old rest ∧
      d.Saves old next ∧ c.shown t = first ++ next :: rest := by
  rw [overwrite, Action.on_bind_of_ok (existingId_on hid s)] at h
  obtain ⟨d, u, hencode, hwrite⟩ := Action.exists_of_on_bind_eq_ok h
  obtain ⟨henc, rfl⟩ := encode_of_encodeObject_on hencode
  rw [hstrategy] at hwrite
  obtain ⟨result, v, hcall, hend⟩ := Action.exists_of_on_bind_eq_ok hwrite
  obtain ⟨hmatched, rfl⟩ := matched_of_ok hend
  obtain ⟨name, fresh, reply, hrun, rfl⟩ := run_of_call_eq_ok (update_eq_issue _ _ _ _ _) hcall
  obtain ⟨⟨result, docs⟩, hupdate, hreply⟩ := exists_of_bind_eq_ok hrun
  cases hreply
  obtain ⟨hnone, -⟩ | ⟨first, old, next, rest, hfirst, hsaves, hdocs⟩ :=
    exists_of_guardedUpdate hupdate
  · exact absurd hnone hmatched
  · exact ⟨d, first, old, next, rest, henc, hfirst, hsaves, hdocs⟩

omit [Regex.Engine] in
/-- If one document alone is found under an identity, none of those after it is found. -/
theorem not_finds_of_unique {first rest : List Document} {old : Document}
    (hunique : ((first ++ old :: rest).filter (Document.hasId id)).length ≤ 1)
    (hold : SaveStrategy.guardedUpdate.finds id old = true) :
    ∀ x ∈ rest, SaveStrategy.guardedUpdate.finds id x ≠ true := by
  intro x hx hfound
  have hx' : x ∈ rest.filter (Document.hasId id) :=
    List.mem_filter.2 ⟨hx, SaveStrategy.hasId_of_finds hfound⟩
  have hpositive := List.length_pos_of_mem hx'
  rw [List.filter_append, List.filter_cons_of_pos (SaveStrategy.hasId_of_finds hold),
    List.length_append, List.length_cons] at hunique
  omega

/-- What is left where the first document that is found has been saved, and an object with the same
identity is written once more. -/
theorem shown_overwrite_again {docs first rest : List Document} {old next : Document} {u : Host}
    (hstrategy : c.settings.strategy = .guardedUpdate)
    (hid : ObjectId.ofHex? (identity object) = some id)
    (hfirst : FirstMatch .exact (SaveStrategy.guardedUpdate.filter id) docs first old rest)
    (hshown : c.shown u = first ++ next :: rest) :
    ∃ last more, c.shown ((c.overwrite object).on u).2 = first ++ last :: more ∧
      (last = next ∨ ∃ d, encode object = .ok d ∧ d.Saves next last) ∧
      ((docs.filter (Document.hasId id)).length ≤ 1 → more = rest) := by
  obtain hsame | ⟨d, result, henc, hupdate⟩ := shown_overwrite hstrategy hid u
  · exact ⟨next, rest, hsame.trans hshown, .inl rfl, fun _ => rfl⟩
  · rw [hshown] at hupdate
    obtain ⟨last, more, hleft, hlast, hmore⟩ := exists_of_guardedUpdate_again hfirst.passed hupdate
    refine ⟨last, more, hleft, hlast.imp_right fun hsaves => ⟨d, henc, hsaves⟩, fun hunique => ?_⟩
    refine hmore.resolve_right ?_
    rintro ⟨x, hx, hfound⟩
    have hold := hfirst.matched
    rw [SaveStrategy.matchesFilter_filter] at hold
    rw [hfirst.docs_eq] at hunique
    exact not_finds_of_unique hunique (Except.ok.inj hold) x hx hfound

variable [LawfulObject α]

theorem save_run_snd (hnew : isNew object = false) (note : String) (u : Host) :
    ((c.save object note).run u).2 = ((c.overwrite (stamp (clock u) note object)).on u).2 := by
  change _ = ((c.put false (stamp (clock u) note object)).on u).2
  rw [save_run, hnew]
  rcases (c.put false (stamp (clock u) note object)).on u with ⟨e | a, v⟩ <;> rfl

theorem overwrite_of_save_ok {note : String} {s : Host} (hnew : isNew object = false)
    (h : ((c.save object note).run s).1.1 = .ok ()) :
    (c.overwrite (stamp (clock s) note object)).on s = (.ok (), ((c.save object note).run s).2) := by
  change (c.put false (stamp (clock s) note object)).on s = _
  rw [save_run, hnew] at h ⊢
  rcases hput : (c.put false (stamp (clock s) note object)).on s with ⟨e | a, t⟩
  · rw [hput] at h
    cases h
  · rfl

/-- Setting the fields of a document again leaves it as it is. A guarded save that is repeated leaves
the document that it has stored as it is if the clock still says the same, and at any other time it
leaves the document that it would have stored without the first save, as long as the object is encoded
to the same fields. All other documents stay the same if no other one is found under the identity. -/
theorem set_replayed :
    (∀ (argument : Value) (d d' : Document) (changed : Bool),
      d.applyUpdate [("$set", argument)] = .ok (d', changed) →
      ∃ again, d'.applyUpdate [("$set", argument)] = .ok (d', again)) ∧
    ∀ (c : Collection) (object : α) (note : String) (id : ObjectId) (s u : Host),
      let saved := (c.save object note).run s
      let again := (c.save object note).run u
      c.settings.strategy = .guardedUpdate → isNew object = false →
      ObjectId.ofHex? (identity object) = some id → saved.1.1 = .ok () →
      c.shown u = c.shown saved.2 →
      let written := encode (stamp (clock s) note object)
      let rewritten := encode (stamp (clock u) note object)
      ∃ d first old next rest last more, written = .ok d ∧ d.Saves old next ∧
        c.shown s = first ++ old :: rest ∧ c.shown saved.2 = first ++ next :: rest ∧
        c.shown again.2 = first ++ last :: more ∧
        (clock u = clock s → last = next) ∧
        ((∀ d', rewritten = .ok d' → d'.keys = d.keys) →
          last = next ∨ ∃ d', rewritten = .ok d' ∧ d'.Saves old last) ∧
        (((c.shown s).filter (Document.hasId id)).length ≤ 1 → more = rest) := by
  refine ⟨fun argument d d' changed h => ?_, ?_⟩
  · cases argument with
    | document fields => exact Document.applyUpdate_set_self h
    | _ => cases h
  intro c object note id s u saved again hstrategy hnew hid hsaved hshown written rewritten
  have hidentity (now : Int64) : ObjectId.ofHex? (identity (stamp now note object)) = some id := by
    rw [identity_stamp, hid]
  have hwrite := overwrite_of_save_ok hnew hsaved
  obtain ⟨d, first, old, next, rest, henc, hfirst, hsaves, hleft⟩ :=
    exists_of_overwrite_ok hstrategy (hidentity _) hwrite
  have hagain : c.shown again.2 = c.shown ((c.overwrite (stamp (clock u) note object)).on u).2 :=
    congrArg c.shown (save_run_snd hnew note u)
  obtain ⟨last, more, hwritten, hlast, hmore⟩ :=
    shown_overwrite_again hstrategy (hidentity (clock u)) hfirst (hshown.trans hleft)
  refine ⟨d, first, old, next, rest, last, more, henc, hsaves, hfirst.docs_eq, hleft,
    hagain.trans hwritten, fun hclock => ?_, fun hkeys => ?_, hmore⟩
  · rcases hlast with hlast | ⟨d', henc', hresaved⟩
    · exact hlast
    · rw [hclock, henc] at henc'
      cases henc'
      exact hsaves.unique (hsaves.again rfl hresaved)
  · refine hlast.imp_right ?_
    rintro ⟨d', henc', hresaved⟩
    exact ⟨d', henc', hsaves.again (hkeys d' henc') hresaved⟩

end Collection

namespace Contact

open Collection

end Contact

end

open scoped Regex
open PersistentObject (identity setJournal isNew encode)

namespace Contact

open Collection

/-- The second run puts an array where the first one has left a document, and then the document again.
A contact that is saved twice at one moment is stored once. -/
theorem set_replayed_overlapping :
    let fields : Document :=
      [("a.b", .int32 1), ("a", .document [("c", .array [])]), ("a.c.d", .int32 2)]
    let set : Document := [("$set", .document fields)]
    let d : Document := [("_id", .int32 1), ("a", .int32 5)]
    let d' : Document := [("_id", .int32 1), ("a", .document [("c", .document [("d", .int32 2)])])]
    let contact : Contact := ⟨⟨1⟩, some "ann", { createDate := 5 }⟩
    let saved := (collection.save contact "met again").run (holding (stored (some 0)))
    let again := (collection.save contact "met again").run saved.2
    let names := (collection.shown saved.2).map fun d => (d.get? "nick").bind Value.asText?
    d.applyUpdate set = .ok (d', true) ∧ (∃ changed, d'.applyUpdate set = .ok (d', changed)) ∧
      saved.1.1 = .ok () ∧ names = [some "ann"] ∧
      collection.shown again.2 = collection.shown saved.2 := by
  intro fields set d d' contact
  dsimp only
  obtain ⟨hset, hretried⟩ := set_replayed (α := Contact)
  have happly : d.applyUpdate set = .ok (d', true) := by rfl
  have hnew : isNew contact = false := rfl
  have hid : ObjectId.ofHex? (identity contact) = some ⟨1⟩ := ObjectId.ofHex?_hex ⟨1⟩
  have hfound : [stored (some 0)].any (SaveStrategy.guardedUpdate.finds ⟨1⟩) = true := by decide
  have hencode : ∀ j, ∃ d, encode (setJournal j contact) = .ok d ∧ d.keys.Nodup :=
    fun j => ⟨_, rfl, (plain_toDocument (setJournal j contact)).1⟩
  have hsaved := (holds_holding (stored (some 0))).guardedSave_answer rfl hnew hid hencode "met again"
  rw [if_pos hfound] at hsaved
  obtain ⟨_, first, old, next, rest, last, more, -, -, -, hleft, hagain, hlast, -, hmore⟩ :=
    hretried collection contact "met again" ⟨1⟩ _ _ rfl hnew hid hsaved rfl
  have hunique : ([stored (some 0)].filter (Document.hasId ⟨1⟩)).length ≤ 1 :=
    List.length_filter_le _ _
  have hsame : first ++ last :: more = first ++ next :: rest := by
    rw [hlast (by decide +kernel), hmore hunique]
  exact ⟨happly, hset _ d d' true happly, hsaved, by decide +kernel,
    hagain.trans (hsame.trans hleft.symm)⟩

end Contact

end DocStore
