import DocStore.Proofs.Collection.Roster
/-!
The documents of a roster. Each has an identity of its own, so commands that select by identity come
to the same there as the operations of the roster do on its entries.
-/
namespace DocStore

open PersistentObject (encode)

namespace Roster

open Table

variable [PersistentObject α] {r : Roster α} {id : ObjectId} {object : α} {d : Document}

theorem hasId_storedAs (id other : ObjectId) (object : α) :
    (storedAs id object).hasId other = (id == other) :=
  Document.hasId_of_get? rfl other

theorem storedAs_eq (h : encode object = .ok d) :
    storedAs id object = identified (.objectId id) d := by
  rw [storedAs, h]
  rfl

theorem find?_documents (r : Roster α) (id : ObjectId) :
    r.documents.find? (Document.hasId id) = (r.find? id).map (storedAs id) := by
  have hentry : (Document.hasId id ∘ fun e : ObjectId × α => storedAs e.1 e.2) =
      fun e => e.1 == id := funext fun e => hasId_storedAs e.1 id e.2
  rw [documents, List.find?_map, hentry, find?, Option.map_map]
  cases hfound : r.entries.find? fun e => e.1 == id with
  | none => rfl
  | some e =>
    have hid := List.find?_some hfound
    have heq : e.1 = id := eq_of_beq hid
    rw [Option.map_some, Option.map_some, Function.comp_apply, heq]

theorem lacks_of_not_mem (h : id ∉ r.ids) : Lacks r.documents id := by
  rw [Lacks, find?_documents, find?_eq_none_iff.2 h]
  rfl

theorem documents_append (h : id ∉ r.ids) :
    (r.append id object h).documents = r.documents ++ [storedAs id object] :=
  List.map_append

theorem documents_put (r : Roster α) (id : ObjectId) (object : α) :
    (r.put id object).documents =
      r.documents.map fun d => if d.hasId id then storedAs id object else d := by
  simp only [documents, put, List.map_map]
  apply List.map_congr_left
  intro e _
  simp only [Function.comp_apply, hasId_storedAs]
  cases hid : e.1 == id with
  | false => rfl
  | true => rw [if_pos rfl, if_pos rfl, eq_of_beq hid]

/-- No two documents have one identity. -/
theorem documents_unique (r : Roster α) (id : ObjectId) :
    r.documents.Pairwise fun x y => ¬(x.hasId id = true ∧ y.hasId id = true) := by
  rw [documents, List.pairwise_map]
  refine (List.pairwise_map.1 r.distinct).imp ?_
  rintro e e' hne ⟨he, he'⟩
  rw [hasId_storedAs] at he he'
  exact hne ((eq_of_beq he).trans (eq_of_beq he').symm)

/-- Where at most one element is of a kind, putting another in its place changes only that. -/
theorem map_ite_of_unique {p : β → Bool} {first rest : List β} {old : β} (next : β)
    (h : (first ++ old :: rest).Pairwise fun x y => ¬(p x = true ∧ p y = true))
    (hold : p old = true) :
    (first ++ old :: rest).map (fun x => if p x then next else x) = first ++ next :: rest := by
  obtain ⟨_, hrest, hfirst⟩ := List.pairwise_append.1 h
  have hkeep : ∀ {xs : List β}, (∀ x ∈ xs, ¬p x = true) →
      xs.map (fun x => if p x then next else x) = xs := by
    intro xs hxs
    rw [List.map_congr_left fun x hx => if_neg (hxs x hx), List.map_id']
  rw [List.map_append, List.map_cons, if_pos hold,
    hkeep fun x hx hp => hfirst x hx old List.mem_cons_self ⟨hp, hold⟩,
    hkeep fun x hx hp => (List.pairwise_cons.1 hrest).1 x hx ⟨hold, hp⟩]

section Writing

variable (henc : encode object = .ok d) (hid : d.get? "_id" = some (.objectId id))
include henc hid

theorem insert_documents (h : id ∉ r.ids) (name : String) (fresh : ObjectId) :
    Table.insert name fresh d r.documents =
      .ok (.objectId id, (r.append id object h).documents) := by
  rw [insert_of_lacks (lacks_of_not_mem h) hid, documents_append, storedAs_eq henc]

omit henc in
theorem insert_documents_of_mem (h : id ∈ r.ids) (name : String) (fresh : ObjectId) :
    Table.insert name fresh d r.documents = .error (duplicateKey name (.objectId id)) := by
  obtain ⟨e, he, heq⟩ := List.mem_map.1 h
  have hany : (r.documents.any fun x => (x.get? "_id").any fun v => v.equal (.objectId id)) =
      true := by
    refine List.any_eq_true.2 ⟨storedAs e.1 e.2, List.mem_map_of_mem he, ?_⟩
    rw [heq, storedAs, get?_identified]
    simp [Value.equal]
  simp only [Table.insert, hid, Option.getD_some, hany, if_true]

variable [Regex.Engine]

theorem replace_documents (h : id ∈ r.ids) :
    ∃ modified, Table.replace (SaveStrategy.replace.filter id) d r.documents =
      .ok (⟨1, modified⟩, (r.put id object).documents) := by
  obtain ⟨object', hfound⟩ := exists_of_mem_ids h
  have hfind : r.documents.find? (Document.hasId id) = some (storedAs id object') := by
    rw [find?_documents, hfound]
    rfl
  obtain ⟨first, rest, hdocs, hsplit⟩ := splitFirst_of_find?_eq_some
    (SaveStrategy.replace.matchesFilter_filter id) hfind []
  have hput : (r.put id object).documents = first ++ storedAs id object :: rest := by
    have hunique := r.documents_unique id
    rw [documents_put]
    rw [hdocs] at hunique ⊢
    exact map_ite_of_unique _ hunique (List.find?_some hfind)
  have hold : (storedAs id object').get? "_id" = some (.objectId id) := rfl
  have haltered : (!(Value.objectId id).equal (.objectId id)) = false := by simp [Value.equal]
  rw [Table.replace, hsplit, hput]
  simp only [bind, Except.bind, hold, hid, haltered, successor, storedAs_eq henc, List.append_nil,
    List.reverse_reverse]
  exact ⟨_, rfl⟩

end Writing

theorem documents_keep (r : Roster α) (p : Document → Bool) :
    (r.keep fun e => p (storedAs e.1 e.2)).documents = r.documents.filter p :=
  List.filter_map.symm

variable [Regex.Engine]

/-- What a removal leaves, if the filter gives a verdict on every document. -/
theorem reject_documents (r : Roster α) (filter : Document) :
    (Table.reject filter r.documents).toOption =
      if r.documents.all fun d => (d.matchesFilter .exact filter).isOk then
        some (r.keep fun e => !(storedAs e.1 e.2).meets filter).documents
      else none := by
  have hverdicts : (∀ d ∈ r.documents, ∃ verdict, d.matchesFilter .exact filter = .ok verdict) ↔
      (r.documents.all fun d => (d.matchesFilter .exact filter).isOk) = true := by
    rw [List.all_eq_true]
    refine forall₂_congr fun d _ => ?_
    cases d.matchesFilter .exact filter with
    | error e => exact ⟨nofun, nofun⟩
    | ok verdict => exact ⟨fun _ => rfl, fun _ => ⟨verdict, rfl⟩⟩
  split
  · rename_i hall
    rw [reject_eq_ok_iff.2 ⟨hverdicts.2 hall, rfl⟩, documents_keep r fun d => !d.meets filter]
    rfl
  · rename_i hall
    cases hreject : Table.reject filter r.documents with
    | error e => rfl
    | ok kept => exact absurd (hverdicts.1 (reject_eq_ok_iff.1 hreject).1) hall

theorem matchesFilter_equal_id (id : ObjectId) (d : Document) :
    d.matchesFilter .exact (Expression.equal "_id" (.objectId id)).toFilter =
      .ok (d.hasId id) := by
  have hfilter : (Expression.equal "_id" (.objectId id)).toFilter =
    [("_id", .document [("$eq", .objectId id)])] := rfl
  rw [hfilter, Filter.matchesFilter_field .exact d (by decide),
    Filter.fieldHolds_operator .exact (d.at? "_id") (by decide)]
  rfl

/-- A search for an identity gives the first document that has it. -/
theorem findOne_equal_id (id : ObjectId) (docs : List Document) :
    Table.findOne (Expression.equal "_id" (.objectId id)).toFilter {} docs =
      .ok (docs.find? (Document.hasId id)) := by
  cases hfind : docs.find? (Document.hasId id) with
  | none =>
    have hsplit : Table.splitFirst (Collation.caseRule none) _ [] docs = _ :=
      splitFirst_of_find?_eq_none (matchesFilter_equal_id id) hfind []
    rw [Table.findOne, hsplit]
    rfl
  | some d =>
    obtain ⟨first, rest, _, hfirst⟩ :=
      splitFirst_of_find?_eq_some (matchesFilter_equal_id id) hfind []
    have hsplit : Table.splitFirst (Collation.caseRule none) _ [] docs = _ := hfirst
    rw [Table.findOne, hsplit]
    rfl

theorem findOne_documents (r : Roster α) (id : ObjectId) :
    Table.findOne (Expression.equal "_id" (.objectId id)).toFilter {} r.documents =
      .ok ((r.find? id).map (storedAs id)) := by
  rw [findOne_equal_id, find?_documents]

theorem select_everything (docs : List Document) :
    Table.select .exact Expression.everything.toFilter docs = .ok docs := by
  induction docs with
  | nil => rfl
  | cons d rest ih =>
    rw [Table.select, ih]
    rfl

end Roster

end DocStore
