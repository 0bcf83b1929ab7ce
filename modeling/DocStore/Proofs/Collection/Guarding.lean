import DocStore.Proofs.Collection.Deleted
import DocStore.Proofs.Collection.ReadBack
import DocStore.Regex.Default
/-!
Which objects a guarded update lets through. The update goes to a document whose journal has zero
stored for the date of deletion. An object reads its journal with defaults for what is missing, and
counts as deleted only from a date after zero on, so that there are objects that are not deleted and
cannot be saved either.
-/
namespace DocStore

section

open PersistentObject (identity journal setJournal isNew encode)

namespace Value

/-- Only whole numbers of the two widths are read as whole numbers. -/
theorem toInt_of_asInt64? {v : Value} {n : Int64} (h : v.asInt64? = some n) :
    (∃ k : Int32, v = .int32 k ∧ k.toInt = n.toInt) ∨ v = .int64 n := by
  obtain ⟨m, hwhole, rfl⟩ := Option.map_eq_some_iff.mp h
  cases v with
  | int32 k =>
    have hleast := Int32.le_toInt k
    have hgreatest := Int32.toInt_lt k
    have hm : k.toInt = m := by
      simp only [Tagged.whole?] at hwhole
      split at hwhole
      · exact Option.some.inj hwhole
      · cases hwhole
    refine .inl ⟨k, rfl, ?_⟩
    rw [← hm, Int64.toInt_ofInt_of_le (by omega) (by omega)]
  | int64 k =>
    have hm : k.toInt = m := by
      simp only [Tagged.whole?] at hwhole
      split at hwhole
      · exact Option.some.inj hwhole
      · cases hwhole
    rw [← hm, Int64.ofInt_toInt]
    exact .inr rfl
  | _ => cases hwhole

/-- A whole number equals zero as a value only if it is zero. -/
theorem equals_zero_iff {v : Value} {n : Int64} (h : v.asInt64? = some n) :
    Filter.equals .exact (some v) (.int64 0) = true ↔ n = 0 := by
  have hequals : Filter.equals .exact (some v) (.int64 0) = (compareNumbers v (.int64 0) == .eq) := by
    rcases toInt_of_asInt64? h with ⟨k, rfl, hk⟩ | rfl
    all_goals
      rw [Filter.equals, matchesEqual, if_pos (by simp [isNumber])]
      -- The cases before the last one are for values that are not numbers.
      all_goals
        intros
        contradiction
  have hbinary : v.toBinary64 = .ofInt n.toInt := by
    rcases toInt_of_asInt64? h with ⟨k, rfl, hk⟩ | rfl
    · rw [toBinary64, hk]
    · rw [toBinary64]
  have hzero : (Value.int64 0).toBinary64 = .ofInt 0 := by
    simp only [toBinary64, Int64.toInt_zero]
  rw [hequals, beq_iff_eq, compareNumbers_eq_iff, hbinary, hzero, ← Int64.toInt_inj,
    Int64.toInt_zero]
  exact Binary64.ofInt_inj (by decide)

end Value

/-- A journal that is read from parts has the date of deletion that is among them. -/
theorem Journal.deleteDate_of_ofParts? {createDate updateDate deleteDate note revision : Option Value}
    {j : Journal} (h : ofParts? createDate updateDate deleteDate note revision = some j) :
    part? Value.asInt64? 0 deleteDate = some j.deleteDate := by
  obtain ⟨_, -, h⟩ := Option.bind_eq_some_iff.mp h
  obtain ⟨_, -, h⟩ := Option.bind_eq_some_iff.mp h
  obtain ⟨date, hdate, h⟩ := Option.bind_eq_some_iff.mp h
  obtain ⟨_, -, h⟩ := Option.bind_eq_some_iff.mp h
  obtain ⟨_, -, h⟩ := Option.bind_eq_some_iff.mp h
  cases h
  exact hdate

/-- The journal that the object of a stored document has. -/
def Journal.stored? (d : Document) : Option Journal := part? ofValue? {} (d.get? key)

namespace Document

variable {d : Document} {j : Journal}

/-- Whether the journal of a document is one that says when it was deleted, if only that it never
was. -/
def hasDeleteDate (d : Document) : Bool := (d.at? Journal.deleteDatePath).isSome

theorem at?_deleteDatePath (d : Document) :
    d.at? Journal.deleteDatePath = match d.get? Journal.key with
      | some (.document inner) => get? inner "deleteDate"
      | _ => none := by
  have hsegments : pathSegments Journal.deleteDatePath = [Journal.key, "deleteDate"] := by decide
  rw [at?, hsegments, if_neg (by decide), follow?]
  · rfl
  · nofun

/-- A document counts as live for a guarded update exactly if zero is stored for its date of deletion.
That the date is zero for its object is not enough. -/
theorem isLive_iff (h : Journal.stored? d = some j) :
    d.isLive = true ↔ j.deleteDate = 0 ∧ d.hasDeleteDate = true := by
  have hnowhere : d.at? Journal.deleteDatePath = none →
      (d.isLive = true ↔ j.deleteDate = 0 ∧ d.hasDeleteDate = true) := by
    intro hnone
    rw [isLive, hasDeleteDate, hnone]
    constructor
    · intro hlive
      cases hlive
    · intro hdated
      cases hdated.2
  have hpath := at?_deleteDatePath d
  rw [Journal.stored?] at h
  cases hvalue : d.get? Journal.key with
  | none =>
    rw [hvalue] at hpath
    exact hnowhere hpath
  | some v =>
    rw [hvalue] at h hpath
    cases v with
    | document inner =>
      have hparts : Journal.ofDocument? inner = some j := h
      cases hdate : get? inner "deleteDate" with
      | none => exact hnowhere (hpath.trans hdate)
      | some w =>
        have hread : w.asInt64? = some j.deleteDate := by
          have hpart := Journal.deleteDate_of_ofParts? hparts
          rwa [hdate] at hpart
        rw [isLive, hasDeleteDate, hpath.trans hdate, Value.equals_zero_iff hread]
        exact ⟨fun hzero => ⟨hzero, rfl⟩, And.left⟩
    | _ => exact hnowhere hpath

/-- Setting fields fails only at the identity. -/
theorem exists_modifyAll_set {fields : Document} (hid : "_id" ∉ fields.keys) (d : Document)
    (changed : Bool) : ∃ updated, d.modifyAll "$set" changed fields = .ok updated := by
  induction fields generalizing d changed with
  | nil => exact ⟨_, rfl⟩
  | cons field rest ih =>
    obtain ⟨path, v⟩ := field
    obtain ⟨hpath, hrest⟩ := List.ne_and_not_mem_of_not_mem_cons hid
    have hmodify : d.modify "$set" path v = .ok (d.setAt path v) := by
      rw [modify, if_neg hpath.symm]
    rw [modifyAll, hmodify]
    exact ih hrest _ _

theorem exists_applyUpdate_set {fields : Document} (hid : "_id" ∉ fields.keys) (d : Document) :
    ∃ updated, d.applyUpdate [("$set", .document fields)] = .ok updated := by
  obtain ⟨updated, hmodify⟩ := exists_modifyAll_set hid d false
  refine ⟨updated, ?_⟩
  rw [applyUpdate, if_neg (by simp), applyModifiers, hmodify]
  rfl

end Document

variable [Regex.Engine]

namespace Table

variable {docs : List Document} {d fields : Document}

/-- A guarded update matches the first document that it finds, or none. -/
theorem guardedUpdate_matched (id : ObjectId) (hfields : "_id" ∉ fields.keys) (docs : List Document) :
    ∃ modified docs', update (SaveStrategy.guardedUpdate.filter id)
      [("$set", .document fields)] docs =
        .ok (⟨if docs.any (SaveStrategy.guardedUpdate.finds id) then 1 else 0, modified⟩, docs') := by
  have hfilter := SaveStrategy.guardedUpdate.matchesFilter_filter id
  cases hfind : docs.find? (SaveStrategy.guardedUpdate.finds id) with
  | none =>
    have hnone : docs.any (SaveStrategy.guardedUpdate.finds id) = false :=
      List.any_eq_false.mpr (List.find?_eq_none.mp hfind)
    rw [update_of_find?_eq_none hfilter hfind, hnone]
    exact ⟨0, docs, rfl⟩
  | some old =>
    have hsome : docs.any (SaveStrategy.guardedUpdate.finds id) = true :=
      List.any_eq_true.mpr ⟨old, List.mem_of_find?_eq_some hfind, List.find?_some hfind⟩
    obtain ⟨first, rest, rfl, hsplit⟩ := splitFirst_of_find?_eq_some hfilter hfind []
    obtain ⟨⟨next, changed⟩, happly⟩ := Document.exists_applyUpdate_set hfields old
    refine ⟨if changed then 1 else 0, (first.reverse ++ []).reverse ++ next :: rest, ?_⟩
    rw [update, hsplit, hsome]
    simp only [bind, Except.bind, happly]
    rfl

omit [Regex.Engine] in
/-- Where one document alone is found under an identity, it is the one that a guarded update finds, or
there is none. -/
theorem any_finds_of_unique {id : ObjectId} (hunique : docs.filter (Document.hasId id) = [d]) :
    docs.any (SaveStrategy.guardedUpdate.finds id) = d.isLive := by
  have hany : docs.any (SaveStrategy.guardedUpdate.finds id) =
      (docs.filter (Document.hasId id)).any Document.isLive := by
    rw [List.any_filter]
    rfl
  rw [hany, hunique, List.any_cons, List.any_nil, Bool.or_false]

omit [Regex.Engine] in
theorem version_of_unique {id : ObjectId} (hunique : docs.filter (Document.hasId id) = [d])
    (hid : d.get? "_id" = some (.objectId id)) :
    Version docs id (some d) ∧ Unmistaken docs id := by
  have hown : d.hasOwnId id = true := Document.hasOwnId_iff.mpr hid
  have hmistaken : Unmistaken docs id := by
    intro x hx hfound
    have hmem : x ∈ docs.filter (Document.hasId id) := List.mem_filter.mpr ⟨hx, hfound⟩
    rw [hunique, List.mem_singleton] at hmem
    rw [hmem]
    exact hown
  refine ⟨?_, hmistaken⟩
  have hfilter : docs.filter (Document.hasOwnId id) = docs.filter (Document.hasId id) := by
    refine List.filter_congr fun x hx => ?_
    rw [Bool.eq_iff_iff]
    exact ⟨Document.hasId_of_hasOwnId, hmistaken x hx⟩
  rw [Version, hfilter, hunique]
  rfl

end Table

namespace Collection

open Host Table

variable {α : Type} [PersistentObject α] {c : Collection} {s : Host} {id : ObjectId}
  {docs : List Document} {d : Document} {object : α}

/-- A guarded update succeeds where it finds a document, and tells that there is none otherwise. -/
theorem Holds.updateObject_answer (h : c.Holds docs s) (hnodup : d.keys.Nodup) :
    ((c.updateObject id d).on s).1 =
      if docs.any (SaveStrategy.guardedUpdate.finds id) then .ok ()
      else .error ((Failure.notFound saveLocation "no live document to update").withDetail
        (filterDetail (SaveStrategy.guardedUpdate.filter id))) := by
  let filter := SaveStrategy.guardedUpdate.filter id
  let failure := fun e =>
    (Failure.ofWrite saveLocation "unable to update object" e).withDetail (filterDetail filter)
  have hfields : "_id" ∉ (d.erase "_id").keys := by
    rw [Document.keys_erase]
    exact hnodup.not_mem_erase
  obtain ⟨modified, docs', hupdate⟩ := guardedUpdate_matched id hfields docs
  obtain ⟨name, fresh, hanswer, -⟩ := h.call_on
    (.update filter [("$set", .document (d.erase "_id"))]) Reply.result
    (update_eq_issue _ _ _ _ _) saveLocation (some filter) failure
  rw [Command.run, hupdate] at hanswer
  have hbind : (c.updateObject id d).on s = _ := Action.on_bind (c.call saveLocation (some filter)
    (Host.update c.context c.session c.name filter [("$set", .document (d.erase "_id"))]) failure)
    _ s
  rw [hbind, Action.on_eq_of_fst hanswer]
  cases docs.any (SaveStrategy.guardedUpdate.finds id) <;> rfl

omit [PersistentObject α] in
/-- Loading changes no document. -/
theorem Holds.load_unchanged [Decodable α] (h : c.Holds docs s) (criteria : Expression) :
    c.Holds docs ((c.load criteria [] : Action α).on s).2 := by
  let filter := criteria.toFilter
  let failure := fun e =>
    (Failure.ofStore loadLocation "unable to load document" e).withDetail (filterDetail filter)
  let find := c.call loadLocation (some filter)
    (Host.findOne c.context c.session c.name filter none) failure
  obtain ⟨name, fresh, -, hholds⟩ := h.call_on (.findOne filter {}) Reply.document
    (findOne_eq_issue _ _ _ _ none) loadLocation (some filter) failure
  have hread : (((Command.findOne filter {}).run name fresh docs).toOption.map Prod.snd).getD docs =
      docs := by
    rw [Command.run]
    cases Table.findOne filter {} docs <;> rfl
  have hload : ((c.load criteria [] : Action α).on s).2 = (find.on s).2 := by
    have hbind : (c.load criteria [] : Action α).on s = _ := Action.on_bind find _ s
    rw [hbind]
    rcases find.on s with ⟨e | found, t⟩
    · rfl
    · cases found with
      | none => rfl
      | some d =>
        dsimp only
        cases Decodable.decode d (α := α) <;> rfl
  rw [hload]
  rwa [hread] at hholds

variable [LawfulObject α]

/-- A guarded update of an object that exists goes through where its document is found. -/
theorem Holds.guardedSave_answer (h : c.Holds docs s)
    (hstrategy : c.settings.strategy = .guardedUpdate) (hnew : isNew object = false)
    (hid : ObjectId.ofHex? (identity object) = some id)
    (hencode : ∀ j, ∃ d, encode (setJournal j object) = .ok d ∧ d.keys.Nodup) (note : String) :
    ((c.save object note).run s).1.1 =
      if docs.any (SaveStrategy.guardedUpdate.finds id) then .ok ()
      else .error ((Failure.notFound saveLocation "no live document to update").withDetail
        (filterDetail (SaveStrategy.guardedUpdate.filter id))) := by
  obtain ⟨j, hj⟩ := stamp_eq (clock s) note object
  obtain ⟨d, henc, hnodup⟩ := hencode j
  have hidentity : ObjectId.ofHex? (identity (setJournal j object)) = some id := by
    rw [LawfulObject.identity_setJournal, hid]
  have hput : (c.put false (setJournal j object)).on s = (c.updateObject id d).on s := by
    change (c.overwrite (setJournal j object)).on s = _
    rw [overwrite, Action.on_bind_of_ok (existingId_on hidentity s),
      Action.on_bind_of_ok (encodeObject_on henc s), hstrategy]
  rw [Collection.save_run, hnew, hj, hput, ← h.updateObject_answer hnodup]
  rcases (c.updateObject id d).on s with ⟨e | u, t⟩ <;> rfl

/-- An object that was loaded is saved by a guarded update exactly if zero is stored for the date of
its deletion, and the update finds no document otherwise. That is so exactly if the object counts as not
deleted, unless the date is before zero or is missing from the document. -/
theorem guardedSave_iff [Decodable α] (hstrategy : c.settings.strategy = .guardedUpdate)
    (h : c.Holds docs s) (hunique : docs.filter (Document.hasId id) = [d])
    (hown : d.get? "_id" = some (.objectId id)) (hdecode : Decodable.decode d = .ok object)
    (hjournal : Journal.stored? d = some (journal object))
    (hcreated : (journal object).createDate ≠ 0)
    (hid : ObjectId.ofHex? (identity object) = some id)
    (hencode : ∀ j, ∃ d', encode (setJournal j object) = .ok d' ∧ d'.keys.Nodup) (note : String) :
    let loaded := (c.load (.equal "_id" (.objectId id)) [] : Action α).on s
    let saved := ((c.save object note).run loaded.2).1.1
    let date := (journal object).deleteDate
    loaded.1 = .ok object ∧
      (saved = .ok () ↔ date = 0 ∧ d.hasDeleteDate = true) ∧
      (saved ≠ .ok () → saved.mapError Failure.kind = .error .notFound) ∧
      ((saved = .ok () ↔ (journal object).isDeleted = false) ↔
        0 < date ∨ (date = 0 ∧ d.hasDeleteDate = true)) := by
  intro loaded saved date
  obtain ⟨hversion, hmistaken⟩ := Table.version_of_unique hunique hown
  have hnew : isNew object = false := beq_eq_false_iff_ne.mpr hcreated
  have hsaved : saved = _ :=
    (h.load_unchanged _).guardedSave_answer hstrategy hnew hid hencode note
  rw [Table.any_finds_of_unique hunique] at hsaved
  have hanswer : saved = .ok () ↔ date = 0 ∧ d.hasDeleteDate = true := by
    rw [← Document.isLive_iff hjournal, hsaved]
    cases d.isLive with
    | true => exact ⟨fun _ => rfl, fun _ => rfl⟩
    | false => exact ⟨nofun, nofun⟩
  have hdeleted : (journal object).isDeleted = false ↔ ¬0 < date := decide_eq_false_iff_not
  refine ⟨load_of_version hversion hmistaken hdecode h, hanswer, ?_, ?_⟩
  · intro hfailed
    rw [hsaved] at hfailed ⊢
    cases hlive : d.isLive with
    | true => exact absurd (if_pos hlive) hfailed
    | false => rfl
  · rw [hanswer, hdeleted]
    have hzero : date = 0 → ¬0 < date := fun h => h ▸ Int64.lt_irrefl
    tauto

end Collection

namespace Contact

open Collection

/-- A stored contact, with a journal of which there may be the date of its creation alone. -/
def stored (deleteDate : Option Int64) : Document :=
  [("_id", .objectId ⟨1⟩), ("nick", .string "bo"),
    (Journal.key, .document (("createDate", .int64 5) ::
      (deleteDate.map fun date => ("deleteDate", Value.int64 date)).toList))]

/-- A host that has one document. -/
def holding (d : Document) : Host where
  store := { database := "main", tables := Tables.empty.set "contacts" [d] }
  timeline := { now := nanosPerSecond }

omit [Regex.Engine] in
theorem holds_holding (d : Document) : collection.Holds [d] (holding d) :=
  ⟨⟨rfl, rfl, fun _ _ => rfl⟩, rfl, rfl⟩

end Contact

end

open scoped Regex
open PersistentObject (identity journal setJournal isNew encode)

namespace Contact

open Collection

/-- A contact that says of itself that it was never deleted. -/
theorem guardedSave_iff_never_deleted :
    let contact : Contact := ⟨⟨1⟩, some "bo", { createDate := 5 }⟩
    let host := holding (stored (some 0))
    let loaded := (collection.load (.equal "_id" (.objectId ⟨1⟩)) [] : Action Contact).on host
    [stored (some 0)].filter (Document.hasId ⟨1⟩) = [stored (some 0)] ∧
      Journal.stored? (stored (some 0)) = some contact.journal ∧
      (∀ j, (setJournal j contact).toDocument.keys.Nodup) ∧ loaded.1 = .ok contact ∧
      ((collection.save contact "met again").run loaded.2).1.1 = .ok () := by
  intro contact host loaded
  have hunique : [stored (some 0)].filter (Document.hasId ⟨1⟩) = [stored (some 0)] := by
    rw [List.filter_cons_of_pos (Document.hasId_of_hasOwnId (Document.hasOwnId_iff.mpr rfl))]
    rfl
  have hplain : ∀ j, (setJournal j contact).toDocument.keys.Nodup := fun j =>
    (plain_toDocument (setJournal j contact)).1
  have hdecode : Decodable.decode (stored (some 0)) = .ok contact := rfl
  have hjournal : Journal.stored? (stored (some 0)) = some contact.journal := rfl
  have hdate : (stored (some 0)).hasDeleteDate = true := by decide
  have hencode : ∀ j, ∃ d, encode (setJournal j contact) = .ok d ∧ d.keys.Nodup :=
    fun j => ⟨_, rfl, hplain j⟩
  have hid : ObjectId.ofHex? (identity contact) = some ⟨1⟩ := ObjectId.ofHex?_hex ⟨1⟩
  have hcreated : (PersistentObject.journal contact).createDate ≠ 0 := by decide
  obtain ⟨hload, hsave, -, -⟩ := guardedSave_iff rfl (holds_holding (stored (some 0))) hunique rfl
    hdecode hjournal hcreated hid hencode "met again"
  have hsaved := hsave.mpr ⟨rfl, hdate⟩
  refine ⟨hunique, hjournal, hplain, hload, ?_⟩
  dsimp only [loaded, host]
  exact hsaved

/-- Contacts that are not deleted and cannot be saved: one whose journal leaves out the date, and one
with a date before zero. -/
theorem guardedSave_of_undated :
    let attempt := fun (deleteDate : Option Int64) =>
      let loaded := (collection.load (.equal "_id" (.objectId ⟨1⟩)) [] : Action Contact).on
        (holding (stored deleteDate))
      loaded.1.toOption.map fun contact =>
        (contact.journal.isNew, contact.journal.isDeleted,
          ((collection.save contact "met again").run loaded.2).1.1.mapError Failure.kind)
    attempt none = some (false, false, .error .notFound) ∧
      attempt (some (-1)) = some (false, false, .error .notFound) ∧
      attempt (some 0) = some (false, false, .ok ()) ∧
      attempt (some 1) = some (false, true, .error .notFound) := by
  decide +kernel

end Contact

end DocStore
