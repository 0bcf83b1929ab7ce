import DocStore.Proofs.Collection.Refinement
import DocStore.Regex.Default
/-!
Reading back what was saved. After a save that succeeded, the document stored under the identity of
the object has all fields that the object was written with. It has no others if the object was new or
its document was replaced. A guarded update leaves those fields of the stored version in place that
the object was written without, so it reads back only where there are none.
-/
namespace DocStore

open PersistentObject (identity setJournal isNew encode)

namespace Document

/-- The same values are found under the same keys. -/
def SameFields (d d' : Document) : Prop := ∀ key, d'.get? key = d.get? key

/-- Whether an identity is the document's own, which it is not where the document has it in an
array. -/
def hasOwnId (id : ObjectId) (d : Document) : Bool :=
  (d.get? "_id").any fun v => v.equal (.objectId id)

theorem hasOwnId_iff {id : ObjectId} {d : Document} :
    d.hasOwnId id = true ↔ d.get? "_id" = some (.objectId id) := by
  rw [hasOwnId]
  constructor
  · intro h
    cases hv : d.get? "_id" with
    | none =>
      rw [hv] at h
      cases h
    | some v =>
      rw [hv] at h
      rw [Table.eq_objectId_of_equal h]
  · intro h
    rw [h]
    exact beq_self_eq_true id

theorem hasId_of_hasOwnId {id : ObjectId} {d : Document} (h : d.hasOwnId id = true) :
    d.hasId id = true := by
  rw [hasId_of_get? (hasOwnId_iff.1 h), beq_self_eq_true]

end Document

namespace Table

open Document (hasOwnId hasOwnId_iff)

variable {docs docs' : List Document} {id : ObjectId} {stored : Option Document}
  {d old next : Document}

/-- The version of an object that is stored, if there is one: no other document has its identity. -/
def Version (docs : List Document) (id : ObjectId) (stored : Option Document) : Prop :=
  docs.filter (hasOwnId id) = stored.toList

/-- A search for the identity finds only a document that has it for its own. -/
def Unmistaken (docs : List Document) (id : ObjectId) : Prop :=
  ∀ d ∈ docs, d.hasId id = true → d.hasOwnId id = true

/-- There is a version of an object, and no document is there that was not there before except
that one. -/
structure Renewed (docs : List Document) (id : ObjectId) (next : Document)
    (docs' : List Document) : Prop where
  version : Version docs' id (some next)
  others : ∀ x ∈ docs', x ∈ docs ∨ x = next

theorem Version.own (h : Version docs id (some next)) : next.hasOwnId id = true := by
  have hmem : next ∈ docs.filter (Document.hasOwnId id) := by
    rw [h]
    exact List.mem_singleton_self next
  exact (List.mem_filter.1 hmem).2

theorem Renewed.unmistaken (h : Renewed docs id next docs') (hdocs : Unmistaken docs id) :
    Unmistaken docs' id := by
  intro x hx hfound
  rcases h.others x hx with hx | rfl
  · exact hdocs x hx hfound
  · exact h.version.own

theorem Version.find? (h : Version docs id stored) (hdocs : Unmistaken docs id) :
    docs.find? (Document.hasId id) = stored := by
  have hfilter : docs.filter (Document.hasId id) = docs.filter (hasOwnId id) := by
    refine List.filter_congr fun x hx => ?_
    cases hown : x.hasOwnId id with
    | true => exact Document.hasId_of_hasOwnId hown
    | false =>
      rw [← Bool.not_eq_true] at hown ⊢
      exact fun hfound => hown (hdocs x hx hfound)
  rw [← List.head?_filter, hfilter, h]
  cases stored <;> rfl

/-- Another version takes the place of the stored one. -/
theorem Version.exchanged (h : Version docs id stored) (hold : old.hasOwnId id = true)
    (hnext : next.hasOwnId id = true) (hexchanged : Exchanged old next docs docs') :
    stored = some old ∧ Renewed docs id next docs' := by
  obtain ⟨first, rest, rfl, rfl⟩ := hexchanged
  have hothers : ∀ x ∈ first ++ next :: rest, x ∈ first ++ old :: rest ∨ x = next := by
    intro x hx
    rw [List.mem_append, List.mem_cons] at hx ⊢
    tauto
  rw [Version, List.filter_append, List.filter_cons_of_pos hold] at h
  obtain ⟨old', rfl⟩ : ∃ old', stored = some old' := by
    cases stored with
    | none => simp at h
    | some old' => exact ⟨old', rfl⟩
  rcases List.append_eq_singleton_iff.1 h with ⟨hfirst, hrest⟩ | ⟨-, hrest⟩
  · obtain ⟨rfl, hempty⟩ := List.cons.inj hrest
    refine ⟨rfl, ?_, hothers⟩
    rw [Version, List.filter_append, hfirst, List.filter_cons_of_pos hnext, hempty]
    rfl
  · cases hrest

/-- An object is inserted only where no document has its identity. -/
theorem renewed_of_insert (hd : d.get? "_id" = some (.objectId id)) {name : String}
    {fresh : ObjectId} {value : Value} (hinsert : insert name fresh d docs = .ok (value, docs')) :
    Renewed docs id (identified (.objectId id) d) docs' := by
  simp only [insert, hd, Option.getD_some] at hinsert
  split at hinsert
  · cases hinsert
  · rename_i hnone
    cases hinsert
    have hempty : docs.filter (hasOwnId id) = [] := by
      rw [List.filter_eq_nil_iff]
      intro x hx hown
      exact hnone (List.any_eq_true.2 ⟨x, hx, hown⟩)
    have hown : (identified (.objectId id) d).hasOwnId id = true :=
      hasOwnId_iff.2 (get?_identified _ d)
    refine ⟨?_, ?_⟩
    · rw [Version, List.filter_append, hempty, List.filter_cons_of_pos hown]
      rfl
    · intro x hx
      rcases List.mem_append.1 hx with hx | hx
      · exact .inl hx
      · exact .inr (List.mem_singleton.1 hx)

variable [Regex.Engine]

/-- A replacement that has the identity replaces no document that has it in an array. -/
theorem hasOwnId_of_replace {result : UpdateResult} (hd : d.get? "_id" = some (.objectId id))
    (hreplace : replace (SaveStrategy.replace.filter id) d docs = .ok (result, docs'))
    (hmatched : result.matched ≠ 0) :
    ∃ old, old.hasOwnId id = true ∧ Exchanged old (identified (.objectId id) d) docs docs' := by
  obtain ⟨found, hfound, hend⟩ := exists_of_bind_eq_ok hreplace
  match found with
  | none =>
    cases hend
    exact absurd rfl hmatched
  | some (first, old, rest) =>
    obtain ⟨hold, hexchanged⟩ := exchanged_of_splitFirst (identified (.objectId id) d) hfound
    rw [SaveStrategy.matchesFilter_filter] at hold
    have hhas : old.hasId id = true := SaveStrategy.hasId_of_finds (Except.ok.inj hold)
    simp only [hd, successor] at hend
    cases hv : old.get? "_id" with
    | none =>
      rw [Document.hasId, hv] at hhas
      cases hhas
    | some v =>
      simp only [hv] at hend
      split at hend
      · cases hend
      · rename_i hequal
        have hown : v = .objectId id := by
          cases v with
          | objectId id' =>
            simp only [Value.equal, Bool.not_eq_true, Bool.not_eq_false', beq_iff_eq] at hequal
            rw [hequal]
          | _ => simp [Value.equal] at hequal
        subst hown
        cases hend
        exact ⟨old, hasOwnId_iff.2 hv, hexchanged⟩

/-- A guarded update that matches a document updates the stored version. -/
theorem Version.updated (h : Version docs id stored) (hdocs : Unmistaken docs id)
    {result : UpdateResult} (hd : d.get? "_id" = some (.objectId id)) (hplain : d.Plain)
    (hupdate : update (SaveStrategy.guardedUpdate.filter id)
      [("$set", .document (d.erase "_id"))] docs = .ok (result, docs'))
    (hmatched : result.matched ≠ 0) :
    ∃ old next, stored = some old ∧ Document.Updated old d next ∧ Renewed docs id next docs' := by
  rcases update_eq_ok hupdate with ⟨rfl, -⟩ | ⟨old, next, changed, hold, happly, hexchanged, -⟩
  · exact absurd rfl hmatched
  · rw [SaveStrategy.matchesFilter_filter] at hold
    have hown : old.hasOwnId id = true :=
      hdocs old hexchanged.mem (SaveStrategy.hasId_of_finds (Except.ok.inj hold))
    have hfields := hplain.not_mem_erase "_id"
    obtain ⟨next', changed', happly', hset⟩ :=
      Document.applyUpdate_set (hplain.erase "_id") hfields old
    cases happly.symm.trans happly'
    have hnext : Document.Updated old d next := by
      intro key
      rw [hset]
      by_cases hkey : key = "_id"
      · rw [hkey, Document.get?_eq_none hfields, hasOwnId_iff.1 hown, hd]
        rfl
      · rw [Document.get?_erase_of_ne hkey]
    have hid : next.hasOwnId id = true := by
      rw [hasOwnId_iff, hnext, hd]
      rfl
    obtain ⟨hstored, hrenewed⟩ := h.exchanged hown hid hexchanged
    exact ⟨old, next, hstored, hnext, hrenewed⟩

end Table

namespace Collection

open Host Table

variable {c : Collection} {s t : Host} {id : ObjectId} {d : Document} {stored : Option Document}
variable [Regex.Engine]

/-- A timed call that succeeded has put the documents after its command in the place of those before
it. -/
theorem run_of_call_eq_ok {command : Command} {read : Reply → β} {action : StoreAction β}
    (haction : action = issue c.context c.session c.name command >>= fun reply => pure (read reply))
    {location : String} {filter : Option Document} {failure : StoreError → Failure} {value : β}
    (h : (c.call location filter action failure).on s = (.ok value, t)) :
    ∃ name fresh reply,
      command.run name fresh (c.shown s) = .ok (reply, c.shown t) ∧ read reply = value := by
  obtain ⟨u, hcall, hsame, -⟩ := c.call_on location filter action failure s
  rw [h] at hcall
  rcases hanswer : action.on s with ⟨e | a, v⟩
  · rw [hanswer] at hcall
    cases hcall
  · rw [hanswer] at hcall hsame
    cases hcall
    rw [haction] at hanswer
    obtain ⟨reply, w, hissue, hread⟩ := StoreAction.exists_of_on_bind_eq_ok hanswer
    cases hread
    obtain ⟨docs, hrun, hleft⟩ := exists_of_issue_eq_ok hissue
    have hshown : c.shown t = docs := by
      rw [shown, hsame.ledger, ← Store.visibleTables_eq, hleft]
    rw [Store.visibleTables_eq] at hrun
    rw [hshown]
    exact ⟨_, _, reply, hrun, rfl⟩

section Saving

variable [PersistentObject α] {object : α}

/-- What a save that succeeded has stored, given the document that the object was written with. -/
structure Stored (c : Collection) (new : Bool) (id : ObjectId) (stored : Option Document)
    (d next : Document) (s t : Host) : Prop where
  renewed : Renewed (c.shown s) id next (c.shown t)
  whole : new = true ∨ c.settings.strategy = .replace → next = identified (.objectId id) d
  merged : new = false → c.settings.strategy = .guardedUpdate →
    ∃ old, stored = some old ∧ Document.Updated old d next

theorem renewed_of_insertObject (henc : encode object = .ok d)
    (hid : d.get? "_id" = some (.objectId id)) (h : (c.insertObject object).on s = (.ok (), t)) :
    Renewed (c.shown s) id (identified (.objectId id) d) (c.shown t) := by
  rw [insertObject, Action.on_bind_of_ok (encodeObject_on henc s)] at h
  obtain ⟨value, u, hcall, hend⟩ := Action.exists_of_on_bind_eq_ok h
  cases hend
  obtain ⟨name, fresh, reply, hrun, -⟩ := run_of_call_eq_ok (insert_eq_issue _ _ _ _) hcall
  obtain ⟨⟨value', docs⟩, hinsert, hreply⟩ := exists_of_bind_eq_ok hrun
  cases hreply
  exact renewed_of_insert hid hinsert

omit [Regex.Engine] in
theorem matched_of_ok {result : UpdateResult} {refusal : Failure} {u : Host}
    (h : Action.on (if result.matched = 0 then throw refusal else pure ()) u = (.ok (), t)) :
    result.matched ≠ 0 ∧ u = t := by
  by_cases hresult : result.matched = 0
  · rw [if_pos hresult] at h
    cases h
  · rw [if_neg hresult] at h
    cases h
    exact ⟨hresult, rfl⟩

theorem renewed_of_replaceObject (hstored : Version (c.shown s) id stored)
    (hid : d.get? "_id" = some (.objectId id)) (h : (c.replaceObject id d).on s = (.ok (), t)) :
    Renewed (c.shown s) id (identified (.objectId id) d) (c.shown t) := by
  obtain ⟨result, u, hcall, hend⟩ := Action.exists_of_on_bind_eq_ok h
  obtain ⟨hmatched, rfl⟩ := matched_of_ok hend
  obtain ⟨name, fresh, reply, hrun, rfl⟩ := run_of_call_eq_ok (replace_eq_issue _ _ _ _ _) hcall
  obtain ⟨⟨result, docs⟩, hreplace, hreply⟩ := exists_of_bind_eq_ok hrun
  cases hreply
  obtain ⟨old, hown, hexchanged⟩ := hasOwnId_of_replace hid hreplace hmatched
  exact (hstored.exchanged hown (Document.hasOwnId_iff.2 (get?_identified _ d)) hexchanged).2

theorem renewed_of_updateObject (hstored : Version (c.shown s) id stored)
    (hdocs : Unmistaken (c.shown s) id) (hid : d.get? "_id" = some (.objectId id))
    (hplain : d.Plain) (h : (c.updateObject id d).on s = (.ok (), t)) :
    ∃ old next, stored = some old ∧ Document.Updated old d next ∧
      Renewed (c.shown s) id next (c.shown t) := by
  obtain ⟨result, u, hcall, hend⟩ := Action.exists_of_on_bind_eq_ok h
  obtain ⟨hmatched, rfl⟩ := matched_of_ok hend
  obtain ⟨name, fresh, reply, hrun, rfl⟩ := run_of_call_eq_ok (update_eq_issue _ _ _ _ _) hcall
  obtain ⟨⟨result, docs⟩, hupdate, hreply⟩ := exists_of_bind_eq_ok hrun
  cases hreply
  exact hstored.updated hdocs hid hplain hupdate hmatched

omit [Regex.Engine] in
/-- A document that was put together from two has the fields of the first exactly if the second has
no others. -/
theorem sameFields_of_updated {old next : Document} (h : Document.Updated old d next) :
    d.SameFields next ↔ ∀ key, d.get? key = none → old.get? key = none := by
  constructor
  · intro hsame key hnone
    have hkey := h key
    rw [hsame, hnone] at hkey
    exact hkey.symm
  · intro hold key
    rw [h key]
    cases hget : d.get? key with
    | none => exact hold key hget
    | some v => rfl

omit [Regex.Engine] in
theorem encode_of_encodeObject_on {u : Host} (h : (encodeObject object).on s = (.ok d, u)) :
    encode object = .ok d ∧ u = s := by
  rw [encodeObject] at h
  split at h
  · rename_i d' henc
    cases h
    exact ⟨henc, rfl⟩
  · cases h

theorem stored_of_put {new : Bool} (hstored : Version (c.shown s) id stored)
    (hidentity : ObjectId.ofHex? (identity object) = some id)
    (hid : ∀ d, encode object = .ok d → d.get? "_id" = some (.objectId id))
    (hguarded : new = false → c.settings.strategy = .guardedUpdate →
      Unmistaken (c.shown s) id ∧ ∀ d, encode object = .ok d → d.Plain)
    (h : (c.put new object).on s = (.ok (), t)) :
    ∃ d next, encode object = .ok d ∧ c.Stored new id stored d next s t := by
  cases new with
  | true =>
    obtain ⟨d, u, hencode, -⟩ := Action.exists_of_on_bind_eq_ok h
    obtain ⟨henc, -⟩ := encode_of_encodeObject_on hencode
    exact ⟨d, _, henc, renewed_of_insertObject henc (hid d henc) h, fun _ => rfl, nofun⟩
  | false =>
    change (c.overwrite object).on s = _ at h
    rw [overwrite, Action.on_bind_of_ok (existingId_on hidentity s)] at h
    obtain ⟨d, u, hencode, hwrite⟩ := Action.exists_of_on_bind_eq_ok h
    obtain ⟨henc, rfl⟩ := encode_of_encodeObject_on hencode
    cases hstrategy : c.settings.strategy with
    | replace =>
      rw [hstrategy] at hwrite
      refine ⟨d, _, henc, renewed_of_replaceObject hstored (hid d henc) hwrite, fun _ => rfl, ?_⟩
      intro _ hguarded
      cases hstrategy.symm.trans hguarded
    | guardedUpdate =>
      rw [hstrategy] at hwrite
      obtain ⟨hdocs, hplain⟩ := hguarded rfl hstrategy
      obtain ⟨old, next, hold, hnext, hrenewed⟩ :=
        renewed_of_updateObject hstored hdocs (hid d henc) (hplain d henc) hwrite
      refine ⟨d, next, henc, hrenewed, ?_, fun _ _ => ⟨old, hold, hnext⟩⟩
      rintro (hnew | hreplace)
      · cases hnew
      · cases hstrategy.symm.trans hreplace

/-- Documents that have the fields of an object's own are read as that object. -/
def Reads [Decodable α] (object : α) : Prop :=
  ∀ d, encode object = .ok d → ∀ d', d.SameFields d' → Decodable.decode d' = .ok object

omit [PersistentObject α] in
theorem load_of_version [Decodable α] {docs : List Document} {next : Document}
    (hversion : Version docs id (some next)) (hdocs : Unmistaken docs id)
    (hdecode : Decodable.decode next = .ok object) {u : Host} (h : c.Holds docs u) :
    ((c.load (.equal "_id" (.objectId id)) [] : Action α).on u).1 = .ok object := by
  let filter := (Expression.equal "_id" (.objectId id)).toFilter
  let failure := fun e =>
    (Failure.ofStore loadLocation "unable to load document" e).withDetail (filterDetail filter)
  obtain ⟨name, fresh, hanswer, -⟩ := h.call_on (.findOne filter {}) Reply.document
    (findOne_eq_issue _ _ _ _ none) loadLocation (some filter) failure
  rw [Command.run, Roster.findOne_equal_id, hversion.find? hdocs] at hanswer
  have hbind : (c.load (.equal "_id" (.objectId id)) [] : Action α).on u = _ :=
    Action.on_bind (c.call loadLocation (some filter)
      (Host.findOne c.context c.session c.name filter none) failure) _ u
  rw [hbind, Action.on_eq_of_fst hanswer]
  dsimp only [Except.map, bind, Except.bind, pure, Except.pure, Reply.document, Except.mapError]
  rw [hdecode]
  rfl

variable [LawfulObject α]

/-- An object that has its identity in its documents, whatever its journal says. -/
structure Carries (id : ObjectId) (object : α) : Prop where
  identity : ObjectId.ofHex? (identity object) = some id
  document : ∀ j d, encode (setJournal j object) = .ok d → d.get? "_id" = some (.objectId id)

/-- What a save that succeeded has stored, and when it is read back. -/
theorem save_readBack [Decodable α] {saved : α} {note : String} (hcarries : Carries id object)
    (hguarded : isNew object = false → c.settings.strategy = .guardedUpdate →
      Unmistaken (c.shown s) id ∧ ∀ j d, encode (setJournal j object) = .ok d → d.Plain)
    (hstored : Version (c.shown s) id stored)
    (hsave : (c.save object note).run s = ((.ok (), saved), t)) :
    ∃ d next, encode saved = .ok d ∧ Version (c.shown t) id (some next) ∧
      (isNew object = true ∨ c.settings.strategy = .replace →
        next = identified (.objectId id) d ∧ d.SameFields next) ∧
      (isNew object = false → c.settings.strategy = .guardedUpdate →
        ∃ old, stored = some old ∧ Document.Updated old d next ∧
          (d.SameFields next ↔ ∀ key, d.get? key = none → old.get? key = none)) ∧
      (d.SameFields next → Reads saved → Unmistaken (c.shown s) id →
        ∀ u, c.Holds (c.shown t) u →
          ((c.load (.equal "_id" (.objectId id)) [] : Action α).on u).1 = .ok saved) := by
  obtain ⟨j, hj⟩ := stamp_eq (clock s) note object
  rw [save_run] at hsave
  split at hsave
  · rename_i u hput
    cases hsave
    rw [hj] at hput ⊢
    have hidentity := hcarries.identity
    rw [← LawfulObject.identity_setJournal j] at hidentity
    obtain ⟨d, next, henc, hrenewed, hwhole, hmerged⟩ := stored_of_put hstored hidentity
      (hcarries.document j)
      (fun hnew hstrategy => (hguarded hnew hstrategy).imp_right fun hplain => hplain j) hput
    refine ⟨d, next, henc, hrenewed.version, ?_, ?_, ?_⟩
    · intro hpath
      have hid := hcarries.document j d henc
      have hnext := hwhole hpath
      subst hnext
      exact ⟨rfl, Document.get?_identified_of_own hid⟩
    · intro hnew hstrategy
      obtain ⟨old, hold, hnext⟩ := hmerged hnew hstrategy
      exact ⟨old, hold, hnext, sameFields_of_updated hnext⟩
    · intro hsame hreads hdocs u hu
      exact load_of_version hrenewed.version (hrenewed.unmistaken hdocs)
        (hreads d henc next hsame) hu
  · cases hsave

end Saving

end Collection

/-- Somebody with a nickname or without, which is left out where there is none. -/
structure Contact where
  id : ObjectId
  nick : Option String
  journal : Journal

namespace Contact

open Collection

def toDocument (contact : Contact) : Document :=
  ("_id", .objectId contact.id) ::
    ((contact.nick.map fun nick => ("nick", Value.string nick)).toList ++
      [(Journal.key, .document contact.journal.toDocument)])

def ofFields (id nick journal : Option Value) : Except String Contact :=
  match id, journal with
  | some (.objectId id), some (.document inner) =>
    .ok ⟨id, nick.bind Value.asText?, (Journal.ofDocument? inner).getD {}⟩
  | _, _ => .error "not a contact"

instance : PersistentObject Contact where
  identity contact := contact.id.hex
  journal := Contact.journal
  setJournal journal contact := { contact with journal }
  target := "contact"
  encode contact := .ok contact.toDocument

instance : LawfulObject Contact where
  journal_setJournal _ _ := rfl
  identity_setJournal _ _ := rfl
  setJournal_setJournal _ _ _ := rfl

instance : Decodable Contact where
  target := "contact"
  decode d := ofFields (d.get? "_id") (d.get? "nick") (d.get? Journal.key)

theorem carries (contact : Contact) : Carries contact.id contact := by
  refine ⟨ObjectId.ofHex?_hex contact.id, ?_⟩
  rintro j d ⟨⟩
  rfl

theorem plain_toDocument (contact : Contact) : contact.toDocument.Plain := by
  obtain ⟨id, nick, journal⟩ := contact
  have hundotted : ∀ key ∈ ["_id", "nick", Journal.key], '.' ∉ key.toList := by decide
  cases nick with
  | none =>
    refine ⟨(by decide : ["_id", Journal.key].Nodup), fun key hkey => hundotted key ?_⟩
    exact List.Sublist.subset (by decide : ["_id", Journal.key].Sublist _) hkey
  | some nick =>
    exact ⟨(by decide : ["_id", "nick", Journal.key].Nodup), hundotted⟩

theorem reads (contact : Contact) : Reads contact := by
  rintro _ ⟨⟩ d' hsame
  change ofFields (d'.get? "_id") (d'.get? "nick") (d'.get? Journal.key) = .ok contact
  rw [hsame, hsame, hsame]
  obtain ⟨id, nick, journal⟩ := contact
  cases nick with
  | none =>
    change Except.ok (⟨id, none, (Journal.ofDocument? journal.toDocument).getD {}⟩ : Contact) = _
    rw [Journal.ofDocument?_toDocument]
    rfl
  | some nick =>
    change Except.ok (⟨id, some nick, (Journal.ofDocument? journal.toDocument).getD {}⟩ : Contact) = _
    rw [Journal.ofDocument?_toDocument]
    rfl

/-- Contacts that are saved by guarded updates. -/
def collection : Collection := ⟨"contacts", .background, none, { strategy := .guardedUpdate }⟩

/-- A host with one contact. -/
def host (contact : Contact) : Host where
  store := { database := "main", tables := Tables.empty.set "contacts" [contact.toDocument] }
  timeline := { now := nanosPerSecond }

theorem version_host (contact : Contact) :
    Table.Version (collection.shown (host contact)) contact.id (some contact.toDocument) := by
  have hid : contact.toDocument.hasOwnId contact.id = true := Document.hasOwnId_iff.2 rfl
  change [contact.toDocument].filter _ = _
  rw [List.filter_cons_of_pos hid]
  rfl

theorem unmistaken_host (contact : Contact) (id : ObjectId) :
    Table.Unmistaken (collection.shown (host contact)) id := by
  intro d hd hfound
  cases List.mem_singleton.1 hd
  rw [Document.hasId_of_get? rfl, beq_iff_eq] at hfound
  rw [← hfound]
  exact Document.hasOwnId_iff.2 rfl

theorem get?_toDocument (contact : Contact) (key : String) :
    contact.toDocument.get? key =
      if key = "_id" then some (.objectId contact.id)
      else if key = "nick" then contact.nick.map .string
      else if key = Journal.key then some (.document contact.journal.toDocument) else none := by
  obtain ⟨id, nick, journal⟩ := contact
  have hkey : Journal.key ≠ "nick" := by decide
  cases nick with
  | none =>
    simp only [toDocument, Option.map_none, Option.toList_none, List.nil_append, Document.get?_cons]
    by_cases hnick : key = "nick"
    · rw [hnick, if_neg hkey.symm]
      rfl
    · rw [if_neg hnick]
      rfl
  | some nick =>
    simp only [toDocument, Option.map_some, Option.toList_some, List.singleton_append,
      Document.get?_cons]
    rfl

/-- A contact without a nickname has no field that another contact is written without. -/
theorem get?_of_unnamed {contact other : Contact} {key : String} (hunnamed : contact.nick = none)
    (hnone : other.toDocument.get? key = none) : contact.toDocument.get? key = none := by
  rw [get?_toDocument] at hnone ⊢
  by_cases hid : key = "_id"
  · rw [if_pos hid] at hnone
    cases hnone
  · rw [if_neg hid] at hnone ⊢
    by_cases hnick : key = "nick"
    · rw [if_pos hnick, hunnamed]
      rfl
    · rw [if_neg hnick] at hnone ⊢
      by_cases hjournal : key = Journal.key
      · rw [if_pos hjournal] at hnone
        cases hnone
      · rw [if_neg hjournal]

end Contact

open scoped Regex

namespace Contact

open Collection

/-- A contact that has got a nickname is read back. -/
theorem save_readBack_nick :
    let stored : Contact := ⟨⟨1⟩, none, { createDate := 5 }⟩
    let named : Contact := { stored with nick := some "bo" }
    let saved := (collection.save named "").run (host stored)
    let loaded : Action Contact := collection.load (.equal "_id" (.objectId stored.id)) []
    Carries stored.id named ∧
      Table.Version (collection.shown (host stored)) stored.id (some stored.toDocument) ∧
      Table.Unmistaken (collection.shown (host stored)) stored.id ∧
      saved.1.1 = .ok () ∧ (loaded.on saved.2).1 = .ok saved.1.2 := by
  intro stored named saved loaded
  have hplain : ∀ j d, encode (setJournal j named) = .ok d → d.Plain := by
    rintro j d ⟨⟩
    exact plain_toDocument _
  have hsole := unmistaken_host stored stored.id
  have hstorable : Storable .guardedUpdate stored.id named :=
    ⟨(carries named).identity, fun j => ⟨_, rfl, rfl, fun _ => hplain j _ rfl⟩⟩
  have hready : Ready .guardedUpdate (collection.shown (host stored)) stored.id named := by
    have hlive : SaveStrategy.guardedUpdate.finds stored.id stored.toDocument = true := by
      decide +kernel
    refine ⟨stored.toDocument, ?_, rfl⟩
    exact List.find?_cons_of_pos hlive
  obtain ⟨d, -, docs, t, hsave, henc, -, -, -, hwrote⟩ := save_of_ready (c := collection)
    (s := host stored) ⟨rfl, rfl, fun _ _ => rfl⟩ rfl hstorable hready ""
  obtain ⟨d', next, henc', hversion, -, hmerged, hread⟩ :=
    save_readBack (carries named) (fun _ _ => ⟨hsole, hplain⟩) (version_host stored) hsave
  obtain ⟨old, hold, -, hsame⟩ := hmerged rfl rfl
  have hfields : d'.SameFields next := by
    rw [hsame]
    intro key hnone
    cases hold
    cases henc'
    exact get?_of_unnamed rfl hnone
  have hheld : collection.Holds (collection.shown t) t :=
    ⟨hwrote.undisturbed, hwrote.isEnded, rfl⟩
  have hsaved : saved = _ := hsave
  rw [hsaved]
  exact ⟨carries named, version_host stored, hsole, rfl, hread hfields (reads _) hsole t hheld⟩

/-- Saves that succeed and are not read back. A guarded update keeps the nickname that the contact
was written without, takes a dot in a name for a path, and goes to a document that has the identity in
an array if that one comes first. Such a document is also the one that is loaded. -/
theorem save_readBack_left_out :
    let journal : Journal := { createDate := 5 }
    let stored : Contact := ⟨⟨1⟩, some "bo", journal⟩
    let text := fun (key : String) (d : Document) => (d.get? key).bind Value.asText?
    let saved := (collection.save { stored with nick := none } "").run (host stored)
    let byId : Expression := .equal "_id" (.objectId stored.id)
    let contact : Action Contact := collection.load byId []
    let record := fun (id : Value) (key word : String) (journal : Journal) =>
      (⟨[("_id", id), (key, .string word)], journal⟩ : Record)
    let listed := record (.array [.objectId ⟨1⟩]) "a" "other" journal
    let own := record (.objectId ⟨1⟩) "a" "new"
    let holding := fun (records : List Record) =>
      { host stored with store := {
          database := "main",
          tables := Tables.empty.set "contacts" (records.map Record.toDocument) } }
    let dotted := (collection.save (record (.objectId ⟨1⟩) "a.b" "new" journal) "").run
      (holding [record (.objectId ⟨1⟩) "a.b" "old" journal])
    let mistaken := (collection.save (own journal) "").run
      (holding [listed, record (.objectId ⟨1⟩) "a" "old" journal])
    let added := (collection.save (own {}) "").run (holding [listed])
    let first : Action Record := collection.load byId []
    (saved.1.1.isOk = true ∧ text "nick" saved.1.2.toDocument = none ∧
      (collection.shown saved.2).map (text "nick") = [some "bo"] ∧
      (contact.on saved.2).1.toOption.map Contact.nick = some (some "bo")) ∧
    (dotted.1.1.isOk = true ∧ (collection.shown dotted.2).map (text "a.b") = [some "old"]) ∧
    (mistaken.1.1.isOk = true ∧
      (collection.shown mistaken.2).map (text "a") = [some "new", some "old"]) ∧
    (added.1.1.isOk = true ∧
      (first.on added.2).1.toOption.bind (fun r => text "a" r.document) = some "other") := by
  decide +kernel

end Contact

end DocStore
