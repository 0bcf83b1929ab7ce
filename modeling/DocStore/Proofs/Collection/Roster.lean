import DocStore.Collection.Query
import DocStore.Proofs.Collection.Records
import DocStore.Proofs.Collection.Storing
import DocStore.Proofs.Store.Writes
/-!
Rosters: finite maps from identities to objects, in the order in which the objects came. A roster
answers the requests that a collection is made for, without documents and without a store.
-/
namespace DocStore

open PersistentObject (identity setJournal modifyJournal isNew encode)

structure Roster (α : Type) where
  entries : List (ObjectId × α)
  distinct : (entries.map Prod.fst).Nodup

/-- What a client may ask of a collection. -/
inductive Request (α : Type) where
  | save (object : α) (note : String)
  | delete (object : α) (note : String)
  | hardDelete (criteria : Expression)
  | load (id : ObjectId)
  | count

/-- Answers, and the object as it is after it was to be saved. Of a failure only its kind is told. -/
inductive Response (α : Type) where
  | saved (result : Except FailureKind Unit) (object : α)
  | removed (number : Except FailureKind Nat)
  | loaded (object : Except FailureKind α)
  | counted (number : Except FailureKind Nat)

/-- A document as it is stored, with the identity in front. -/
def storedAs [PersistentObject α] (id : ObjectId) (object : α) : Document :=
  Table.identified (.objectId id) ((encode object).toOption.getD [])

section Objects

variable [PersistentObject α] [Decodable α]

/-- An object that is stored under an identity and read again as it was. -/
structure Readable (id : ObjectId) (object : α) : Prop where
  identity : ObjectId.ofHex? (identity object) = some id
  encodes : ∃ d, encode object = .ok d ∧ d.get? "_id" = some (.objectId id)
  reads : Decodable.decode (storedAs id object) = .ok object

/-- An object that is readable whatever its journal says. -/
def Faithful (object : α) : Prop := ∃ id, ∀ j, Readable id (setJournal j object)

variable [LawfulObject α] {object : α}

theorem Faithful.stamp (h : Faithful object) (now : Int64) (note : String) :
    ∃ id, Readable id (Collection.stamp now note object) := by
  obtain ⟨id, hreadable⟩ := h
  obtain ⟨j, hj⟩ := Collection.stamp_eq now note object
  exact ⟨id, hj ▸ hreadable j⟩

theorem Faithful.modifyJournal (h : Faithful object) (f : Journal → Journal) :
    Faithful (modifyJournal f object) := by
  obtain ⟨id, hreadable⟩ := h
  refine ⟨id, fun j => ?_⟩
  rw [PersistentObject.modifyJournal, LawfulObject.setJournal_setJournal]
  exact hreadable j

/-- Saves and deletes are of faithful objects. -/
def Request.Faithful : Request α → Prop
  | save object _ | delete object _ => DocStore.Faithful object
  | hardDelete _ | load _ | count => True

/-- The object that a request writes at some time, if it writes one. -/
def Request.written? (now : Int64) : Request α → Option α
  | save object note => some (Collection.stamp now note object)
  | delete object note =>
    some (Collection.stamp now note (PersistentObject.modifyJournal (·.deleted now note) object))
  | hardDelete _ | load _ | count => none

end Objects

/-- Records are faithful if they begin with an identifier and have no journal among their fields. -/
theorem Record.faithful {fields : Document} (h : Journal.key ∉ fields.keys) (id : ObjectId)
    (journal : Journal) : Faithful (⟨("_id", .objectId id) :: fields, journal⟩ : Record) := by
  refine ⟨id, fun j => ?_⟩
  let r : Record := ⟨("_id", .objectId id) :: fields, j⟩
  have hkey : Journal.key ≠ "_id" := by decide
  have hfields : Journal.key ∉ r.document.keys := List.not_mem_cons_of_ne_of_not_mem hkey h
  refine ⟨id.ofHex?_hex, ⟨r.toDocument, rfl, ?_⟩, ?_⟩
  · rw [Record.toDocument, Document.get?_insert, if_neg hkey.symm]
    rfl
  · exact Record.decode_toDocument hfields

namespace Roster

def empty : Roster α := ⟨[], List.nodup_nil⟩

def ids (r : Roster α) : List ObjectId := r.entries.map Prod.fst

def find? (r : Roster α) (id : ObjectId) : Option α :=
  (r.entries.find? fun e => e.1 == id).map Prod.snd

theorem find?_eq_none_iff {r : Roster α} {id : ObjectId} : r.find? id = none ↔ id ∉ r.ids := by
  rw [find?, Option.map_eq_none_iff, List.find?_eq_none]
  constructor
  · intro h hmem
    obtain ⟨e, he, heq⟩ := List.mem_map.1 hmem
    exact h e he (beq_iff_eq.2 heq)
  · intro h e he heq
    exact h (List.mem_map.2 ⟨e, he, eq_of_beq heq⟩)

theorem exists_of_mem_ids {r : Roster α} {id : ObjectId} (h : id ∈ r.ids) :
    ∃ object, r.find? id = some object := by
  cases hfound : r.find? id with
  | none => exact absurd h (find?_eq_none_iff.1 hfound)
  | some object => exact ⟨object, rfl⟩

theorem mem_of_find? {r : Roster α} {id : ObjectId} {object : α} (h : r.find? id = some object) :
    (id, object) ∈ r.entries := by
  obtain ⟨e, he, rfl⟩ := Option.map_eq_some_iff.1 h
  have hid := List.find?_some he
  have heq : e.1 = id := eq_of_beq hid
  rw [← heq]
  exact List.mem_of_find?_eq_some he

/-- Adds an object at the end. -/
def append (r : Roster α) (id : ObjectId) (object : α) (h : id ∉ r.ids) : Roster α where
  entries := r.entries ++ [(id, object)]
  distinct := by
    rw [List.map_append, List.nodup_append]
    refine ⟨r.distinct, List.pairwise_singleton _ _, ?_⟩
    rintro a ha b hb rfl
    rw [List.mem_singleton.1 hb] at ha
    exact h ha

theorem map_fst_put (entries : List (ObjectId × α)) (id : ObjectId) (object : α) :
    (entries.map fun e => if e.1 == id then (e.1, object) else e).map Prod.fst =
      entries.map Prod.fst := by
  rw [List.map_map]
  apply List.map_congr_left
  intro e _
  simp only [Function.comp_apply]
  split <;> rfl

/-- Puts an object in the place of the one with its identity. -/
def put (r : Roster α) (id : ObjectId) (object : α) : Roster α where
  entries := r.entries.map fun e => if e.1 == id then (e.1, object) else e
  distinct := by
    rw [map_fst_put]
    exact r.distinct

/-- Keeps the entries of a kind. -/
def keep (r : Roster α) (p : ObjectId × α → Bool) : Roster α where
  entries := r.entries.filter p
  distinct := (List.filter_sublist.map Prod.fst).nodup r.distinct

/-- Writes an object: a new one is added, and any other is put in its place. -/
def write (r : Roster α) (new : Bool) (id : ObjectId) (object : α) :
    Except FailureKind (Roster α) :=
  if h : id ∈ r.ids then
    if new then .error .badRequest else .ok (r.put id object)
  else
    if new then .ok (r.append id object h) else .error .notFound

section Writing

variable {r r' : Roster α} {new : Bool} {id : ObjectId} {object : α}

theorem find?_append (h : id ∉ r.ids) (other : ObjectId) :
    (r.append id object h).find? other = if other = id then some object else r.find? other := by
  rw [find?, append, List.find?_append, Option.map_or, List.find?_singleton]
  change (r.find? other).or _ = _
  by_cases hother : other = id
  · subst hother
    rw [find?_eq_none_iff.2 h, if_pos (beq_self_eq_true other), if_pos rfl]
    rfl
  · rw [if_neg (by simpa using Ne.symm hother), if_neg hother]
    exact Option.or_none

theorem find?_put (h : id ∈ r.ids) (other : ObjectId) :
    (r.put id object).find? other = if other = id then some object else r.find? other := by
  have hkey : ((fun e : ObjectId × α => e.1 == other) ∘
      fun e => if e.1 == id then (e.1, object) else e) = fun e => e.1 == other := by
    funext e
    simp only [Function.comp_apply]
    split <;> rfl
  obtain ⟨old, hold⟩ := exists_of_mem_ids h
  rw [find?, put, List.find?_map, hkey, Option.map_map]
  rw [find?] at hold ⊢
  cases hfound : r.entries.find? fun e => e.1 == other with
  | none =>
    rw [if_neg]
    · rfl
    · rintro rfl
      rw [hfound] at hold
      cases hold
  | some e =>
    have hfind := List.find?_some hfound
    have hid : e.1 = other := eq_of_beq hfind
    rw [Option.map_some, Function.comp_apply, hid, Option.map_some]
    by_cases hother : other = id
    · rw [if_pos hother, if_pos (beq_iff_eq.2 hother)]
    · rw [if_neg hother, if_neg (fun heq => hother (eq_of_beq heq))]

/-- The object that is found is the last one that was written under the identity. -/
theorem find?_write (h : r.write new id object = .ok r')
    (other : ObjectId) :
    r'.find? other = if other = id then some object else r.find? other := by
  unfold write at h
  split at h
  · rename_i hmem
    cases new with
    | true => cases h
    | false =>
      cases h
      exact find?_put hmem other
  · rename_i hmem
    cases new with
    | true =>
      cases h
      exact find?_append hmem other
    | false => cases h

/-- New objects come last, and the others stay in their places. -/
theorem ids_write (h : r.write new id object = .ok r') :
    r'.ids = if new then r.ids ++ [id] else r.ids := by
  unfold write at h
  split at h
  · cases new with
    | true => cases h
    | false =>
      cases h
      exact map_fst_put r.entries id object
  · cases new with
    | true =>
      cases h
      exact List.map_append
    | false => cases h

end Writing

variable [PersistentObject α]

/-- Stamps an object and writes it. An object that could not be written is left as it was. -/
def save (r : Roster α) (now : Int64) (object : α) (note : String) :
    Except FailureKind Unit × α × Roster α :=
  let next := Collection.stamp now note object
  match ObjectId.ofHex? (identity object) with
  | none => (.error .internal, object, r)
  | some id =>
    match r.write (isNew object) id next with
    | .ok r => (.ok (), next, r)
    | .error kind => (.error kind, object, r)

def documents (r : Roster α) : List Document := r.entries.map fun e => storedAs e.1 e.2

variable [Regex.Engine]

/-- Answers a request at some time. Criteria that fail on an object remove none. -/
def serve (r : Roster α) (now : Int64) : Request α → Response α × Roster α
  | .save object note =>
    let (result, object, r) := r.save now object note
    (.saved result object, r)
  | .delete object note =>
    if isNew object then (.saved (.error .badRequest) object, r)
    else
      match r.save now (modifyJournal (·.deleted now note) object) note with
      | (.ok (), object, r) => (.saved (.ok ()) object, r)
      | (.error kind, _, r) => (.saved (.error kind) object, r)
  | .hardDelete criteria =>
    if r.documents.all fun d => (d.matchesFilter .exact criteria.toFilter).isOk then
      let kept := r.keep fun e => !(storedAs e.1 e.2).meets criteria.toFilter
      (.removed (.ok (r.entries.length - kept.entries.length)), kept)
    else (.removed (.error .internal), r)
  | .load id =>
    match r.find? id with
    | some object => (.loaded (.ok object), r)
    | none => (.loaded (.error .notFound), r)
  | .count => (.counted (.ok r.entries.length), r)

/-- Answers requests one after the other, each at its time. -/
def serveAll (r : Roster α) : List (Int64 × Request α) → List (Response α) × Roster α
  | [] => ([], r)
  | (now, request) :: rest =>
    let (response, r) := r.serve now request
    let (responses, r) := serveAll r rest
    (response :: responses, r)

section Entries

variable {P : ObjectId → α → Prop} {r r' : Roster α} {id : ObjectId} {object : α}

omit [Regex.Engine] in
omit [PersistentObject α] in
theorem forall_write (h : ∀ e ∈ r.entries, P e.1 e.2) (hobject : P id object) {new : Bool}
    (hwrite : r.write new id object = .ok r') : ∀ e ∈ r'.entries, P e.1 e.2 := by
  unfold write at hwrite
  split at hwrite
  · cases new with
    | true => cases hwrite
    | false =>
      cases hwrite
      intro e he
      obtain ⟨old, hold, rfl⟩ := List.mem_map.1 he
      cases hid : old.1 == id with
      | false => exact h old hold
      | true =>
        rw [if_pos rfl, eq_of_beq hid]
        exact hobject
  · cases new with
    | true =>
      cases hwrite
      intro e he
      rcases List.mem_append.1 he with he | he
      · exact h e he
      · rw [List.mem_singleton.1 he]
        exact hobject
    | false => cases hwrite

variable [LawfulObject α]

omit [Regex.Engine] in
theorem forall_save (h : ∀ e ∈ r.entries, P e.1 e.2) {now : Int64} {note : String}
    (hobject : ∀ id, ObjectId.ofHex? (identity (Collection.stamp now note object)) = some id →
      P id (Collection.stamp now note object)) :
    ∀ e ∈ (r.save now object note).2.2.entries, P e.1 e.2 := by
  rw [Collection.identity_stamp] at hobject
  simp only [save]
  split
  · exact h
  · rename_i id hid
    split
    · rename_i hwrite
      exact forall_write h (hobject id hid) hwrite
    · exact h

/-- What holds of all entries goes on to hold if it holds of what is written. -/
theorem forall_serve (h : ∀ e ∈ r.entries, P e.1 e.2) {now : Int64} {request : Request α}
    (hwritten : ∀ object id, request.written? now = some object →
      ObjectId.ofHex? (identity object) = some id → P id object) :
    ∀ e ∈ (r.serve now request).2.entries, P e.1 e.2 := by
  cases request with
  | save object note => exact forall_save h fun id => hwritten _ id rfl
  | delete object note =>
    have hsave := forall_save h fun id => hwritten _ id rfl
    simp only [serve]
    split
    · exact h
    · split
      · rename_i hsaved
        rw [hsaved] at hsave
        exact hsave
      · rename_i hsaved
        rw [hsaved] at hsave
        exact hsave
  | hardDelete criteria =>
    simp only [serve]
    split
    · exact fun e he => h e (List.mem_of_mem_filter he)
    · exact h
  | load id =>
    simp only [serve]
    split
    · exact h
    · exact h
  | count => exact h

end Entries

end Roster

namespace Collection

variable [PersistentObject α] [Decodable α]
variable [Regex.Engine]

/-- Answers a request from the store. -/
def serve (c : Collection) : Request α → StateM Host (Response α)
  | .save object note => do
    let (answer, object) ← c.save object note
    return .saved (answer.mapError Failure.kind) object
  | .delete object note => do
    let (answer, object) ← c.delete object note
    return .saved (answer.mapError Failure.kind) object
  | .hardDelete criteria => do
    let answer ← (c.hardDelete criteria).run
    return .removed (answer.mapError Failure.kind)
  | .load id => do
    let answer ← (c.load (.equal "_id" (.objectId id)) [] : Action α).run
    return .loaded (answer.mapError Failure.kind)
  | .count => do
    let answer ← (c.count .everything).run
    return .counted (answer.mapError Failure.kind)

end Collection

end DocStore
