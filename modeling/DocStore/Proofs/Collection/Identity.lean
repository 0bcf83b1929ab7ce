import DocStore.Collection.Basic
import DocStore.Document.Journal
import DocStore.Proofs.Document.Fields
import DocStore.Proofs.Filter.Conditions
import DocStore.Store.Command
/-!
Documents of a collection by their identities. An object is written to the document that its
strategy finds under its identity; what is found under any other identity stays as it was.
-/
namespace DocStore

namespace Document

/-- Whether a search for an identity finds a document. -/
def hasId (id : ObjectId) (d : Document) : Bool :=
  Filter.equals .exact (d.get? "_id") (.objectId id)

/-- Whether a document is marked as one that was never deleted. -/
def isLive (d : Document) : Bool :=
  Filter.equals .exact (d.at? Journal.deleteDatePath) (.int64 0)

theorem hasId_of_get? {id : ObjectId} {d : Document} (h : d.get? "_id" = some (.objectId id))
    (other : ObjectId) : d.hasId other = (id == other) := by
  rw [hasId, h]
  rfl

theorem hasId_of_ne {id other : ObjectId} {d : Document}
    (h : d.get? "_id" = some (.objectId id)) (hne : other ≠ id) : d.hasId other = false := by
  rw [hasId_of_get? h, beq_eq_false_iff_ne]
  exact Ne.symm hne

end Document

namespace SaveStrategy

/-- The filter for the document that an object with an identity is written to. -/
def filter (id : ObjectId) : SaveStrategy → Document
  | .replace => [("_id", .objectId id)]
  | .guardedUpdate => [("_id", .objectId id), (Journal.deleteDatePath, .int64 0)]

def finds (id : ObjectId) : SaveStrategy → Document → Bool
  | .replace, d => d.hasId id
  | .guardedUpdate, d => d.hasId id && d.isLive

variable [Regex.Engine]

theorem matchesFilter_filter (strategy : SaveStrategy) (id : ObjectId) (d : Document) :
    d.matchesFilter .exact (strategy.filter id) = .ok (strategy.finds id d) := by
  have hentry : Filter.matchEntry .exact d "_id" (.objectId id) = .ok (d.hasId id) :=
    Filter.matchEntry_field .exact d (by decide) (.objectId id)
  have hlive : Filter.matchEntry .exact d Journal.deleteDatePath (.int64 0) = .ok d.isLive :=
    Filter.matchEntry_field .exact d (by decide) (.int64 0)
  cases strategy with
  | replace =>
    rw [Document.matchesFilter, filter, Filter.matchEntries, hentry, finds]
    cases d.hasId id <;> rfl
  | guardedUpdate =>
    rw [Document.matchesFilter, filter, Filter.matchEntries, hentry, Filter.matchEntries, hlive,
      finds]
    cases d.hasId id <;> cases d.isLive <;> rfl

omit [Regex.Engine] in
theorem hasId_of_finds {strategy : SaveStrategy} {id : ObjectId} {d : Document}
    (h : strategy.finds id d = true) : d.hasId id = true := by
  cases strategy with
  | replace => exact h
  | guardedUpdate => exact (Bool.and_eq_true_iff.1 h).1

end SaveStrategy

namespace Table

variable {id : ObjectId} {d next filter : Document} {docs : List Document}
  {p : Document → Bool}

/-- No document has the identity. -/
def Lacks (docs : List Document) (id : ObjectId) : Prop :=
  docs.find? (Document.hasId id) = none

/-- The document that is found has the identity for its own. -/
def Owns (docs : List Document) (p : Document → Bool) (id : ObjectId) : Prop :=
  ∃ old, docs.find? p = some old ∧ old.get? "_id" = some (.objectId id)

/-- A change of the documents under one identity: a document is put there, and nothing else is
different. -/
structure Stores (docs : List Document) (id : ObjectId) (next : Document) (docs' : List Document) :
    Prop where
  stored : next ∈ docs'
  found : ∀ {other p}, other ≠ id → (∀ x, p x = true → Document.hasId other x = true) →
    docs'.find? p = docs.find? p
  kept : ∀ x ∈ docs, x.get? "_id" ≠ some (.objectId id) → x ∈ docs'

theorem find?_of_lacks (h : Lacks docs id) (hp : ∀ x, p x = true → Document.hasId id x = true) :
    docs.find? p = none := by
  rw [List.find?_eq_none]
  intro x hx hfound
  exact List.find?_eq_none.1 h x hx (hp x hfound)

/-- A document is overlooked where one of another identity is looked for. -/
theorem overlooked {other : ObjectId} (hid : d.get? "_id" = some (.objectId id))
    (hne : other ≠ id) (hp : ∀ x, p x = true → Document.hasId other x = true) : p d = false := by
  cases hfound : p d with
  | false => rfl
  | true =>
    have hhas := hp d hfound
    rw [Document.hasId_of_ne hid hne] at hhas
    cases hhas

theorem stores_append (docs : List Document) (hnext : next.get? "_id" = some (.objectId id)) :
    Stores docs id next (docs ++ [next]) := by
  refine ⟨List.mem_append_right _ List.mem_cons_self, ?_, ?_⟩
  · intro other p hne hp
    rw [List.find?_append, List.find?_cons, overlooked hnext hne hp]
    exact Option.or_none
  · intro x hx _
    exact List.mem_append_left _ hx

theorem stores_middle {old : Document} (hold : old.get? "_id" = some (.objectId id))
    (hnext : next.get? "_id" = some (.objectId id)) (first rest : List Document) :
    Stores (first ++ old :: rest) id next (first ++ next :: rest) := by
  refine ⟨List.mem_append_right _ List.mem_cons_self, ?_, ?_⟩
  · intro other p hne hp
    rw [List.find?_append, List.find?_append, List.find?_cons, List.find?_cons,
      overlooked hnext hne hp, overlooked hold hne hp]
  · intro x hx hid
    rcases List.mem_append.1 hx with hx | hx
    · exact List.mem_append_left _ hx
    · rcases List.mem_cons.1 hx with rfl | hx
      · exact absurd hold hid
      · exact List.mem_append_right _ (List.mem_cons_of_mem _ hx)

theorem get?_identified (v : Value) (d : Document) : (identified v d).get? "_id" = some v := rfl

theorem eq_objectId_of_equal {v : Value} (h : v.equal (.objectId id) = true) :
    v = .objectId id := by
  cases v with
  | objectId id' => rw [eq_of_beq (a := id') (b := id) (by simpa [Value.equal] using h)]
  | _ => simp [Value.equal] at h

theorem insert_of_lacks (h : Lacks docs id) (hd : d.get? "_id" = some (.objectId id))
    (collection : String) (fresh : ObjectId) :
    insert collection fresh d docs =
      .ok (.objectId id, docs ++ [identified (.objectId id) d]) := by
  have hnone : (docs.any fun x => (x.get? "_id").any fun v => v.equal (.objectId id)) = false := by
    rw [List.any_eq_false]
    intro x hx hdup
    cases hv : x.get? "_id" with
    | none =>
      rw [hv] at hdup
      cases hdup
    | some v =>
      rw [hv] at hdup
      rw [eq_objectId_of_equal hdup] at hv
      have hmissing := List.find?_eq_none.1 h x hx
      rw [Document.hasId_of_get? hv] at hmissing
      exact hmissing (beq_self_eq_true id)
  simp only [insert, hd, Option.getD_some, hnone]
  rfl

section Filter

variable [Regex.Engine] (hfilter : ∀ d : Document, d.matchesFilter .exact filter = .ok (p d))
include hfilter

theorem splitFirst_of_find?_eq_none (h : docs.find? p = none) (before : List Document) :
    splitFirst .exact filter before docs = .ok none := by
  induction docs generalizing before with
  | nil => rfl
  | cons d rest ih =>
    have hd : p d = false := Bool.not_eq_true _ ▸ List.find?_eq_none.1 h d List.mem_cons_self
    rw [List.find?_cons, hd] at h
    rw [splitFirst, hfilter, hd]
    exact ih h (d :: before)

theorem splitFirst_of_find?_eq_some {old : Document} (h : docs.find? p = some old)
    (before : List Document) :
    ∃ first rest, docs = first ++ old :: rest ∧
      splitFirst .exact filter before docs = .ok (some (first.reverse ++ before, old, rest)) := by
  induction docs generalizing before with
  | nil => cases h
  | cons d rest ih =>
    rw [splitFirst, hfilter]
    cases hd : p d with
    | true =>
      rw [List.find?_cons, hd] at h
      cases h
      exact ⟨[], rest, rfl, rfl⟩
    | false =>
      rw [List.find?_cons, hd] at h
      obtain ⟨first, after, rfl, hsplit⟩ := ih h (d :: before)
      refine ⟨d :: first, after, rfl, ?_⟩
      rw [List.reverse_cons, List.append_assoc]
      exact hsplit

theorem replace_of_find?_eq_none (h : docs.find? p = none) (d : Document) :
    replace filter d docs = .ok ({}, docs) := by
  rw [replace, splitFirst_of_find?_eq_none hfilter h]
  rfl

theorem update_of_find?_eq_none (h : docs.find? p = none) (changes : Document) :
    update filter changes docs = .ok ({}, docs) := by
  rw [update, splitFirst_of_find?_eq_none hfilter h]
  rfl

theorem replace_of_owns (h : Owns docs p id) (hd : d.get? "_id" = some (.objectId id)) :
    ∃ modified docs', replace filter d docs = .ok (⟨1, modified⟩, docs') ∧
      Stores docs id (identified (.objectId id) d) docs' := by
  obtain ⟨old, hfind, hold⟩ := h
  obtain ⟨first, rest, rfl, hsplit⟩ := splitFirst_of_find?_eq_some hfilter hfind []
  have hsuccessor : successor old d = identified (.objectId id) d := by
    rw [successor, hold]
  have haltered : (!(Value.objectId id).equal (.objectId id)) = false := by
    simp [Value.equal]
  refine ⟨if old.equal (identified (.objectId id) d) then 0 else 1,
    first ++ identified (.objectId id) d :: rest, ?_,
    stores_middle hold (get?_identified _ d) first rest⟩
  rw [replace, hsplit]
  simp only [bind, Except.bind, hold, hd, haltered, hsuccessor, List.append_nil,
    List.reverse_reverse]
  rfl

/-- Setting plain fields leaves the identity as it is. -/
theorem update_of_owns (h : Owns docs p id) {fields : Document} (hplain : fields.Plain)
    (hfields : "_id" ∉ fields.keys) :
    ∃ modified old next docs', update filter [("$set", .document fields)] docs =
        .ok (⟨1, modified⟩, docs') ∧
      Document.Updated old fields next ∧ old.get? "_id" = some (.objectId id) ∧
      Stores docs id next docs' := by
  obtain ⟨old, hfind, hold⟩ := h
  obtain ⟨first, rest, rfl, hsplit⟩ := splitFirst_of_find?_eq_some hfilter hfind []
  obtain ⟨next, changed, hupdate, hupdated⟩ := Document.applyUpdate_set hplain hfields old
  have hnext : next.get? "_id" = some (.objectId id) := by
    rw [hupdated, Document.get?_eq_none hfields, hold]
    rfl
  refine ⟨if changed then 1 else 0, old, next, first ++ next :: rest, ?_, hupdated, hold,
    stores_middle hold hnext first rest⟩
  rw [update, hsplit]
  simp only [bind, Except.bind, hupdate, List.append_nil, List.reverse_reverse]
  rfl

end Filter

end Table

end DocStore
