import DocStore.Proofs.Store.History
import Mathlib.Data.List.Forall2
/-!
What writes do to the documents of a collection. An insertion puts one at the end, and a replacement
or an update lets another one take the place of the first match. A call that gives an answer leaves the
documents that its command was run for.
-/
namespace DocStore

namespace Table

variable {docs docs' : List Document}

/-- One document takes the place of another. -/
def Exchanged (old next : Document) (docs docs' : List Document) : Prop :=
  ∃ first rest, docs = first ++ old :: rest ∧ docs' = first ++ next :: rest

theorem Exchanged.map_eq {old next : Document} {f : Document → β} (h : Exchanged old next docs docs')
    (hf : f next = f old) : docs'.map f = docs.map f := by
  obtain ⟨first, rest, rfl, rfl⟩ := h
  rw [List.map_append, List.map_append, List.map_cons, List.map_cons, hf]

theorem Exchanged.of_map_eq {old next : Document} {f : Document → β}
    (h : Exchanged old next docs docs') (hf : docs'.map f = docs.map f) : f next = f old := by
  obtain ⟨first, rest, rfl, rfl⟩ := h
  rw [List.map_append, List.map_append, List.map_cons, List.map_cons, List.append_cancel_left_eq] at hf
  exact (List.cons.inj hf).1

theorem Exchanged.mem {old next : Document} (h : Exchanged old next docs docs') : old ∈ docs := by
  obtain ⟨first, rest, rfl, rfl⟩ := h
  exact List.mem_append_right _ List.mem_cons_self

theorem forall₂_of_exchanged {old next : Document} {R : Document → Document → Prop}
    (hrefl : ∀ d, R d d) (h : Exchanged old next docs docs') (hR : R old next) :
    List.Forall₂ R docs docs' := by
  obtain ⟨first, rest, rfl, rfl⟩ := h
  induction first with
  | nil => exact .cons hR (List.forall₂_same.2 fun d _ => hrefl d)
  | cons d more ih => exact .cons (hrefl d) ih

theorem insert_eq_ok {collection : String} {fresh : ObjectId} {d : Document} {id : Value}
    (h : insert collection fresh d docs = .ok (id, docs')) : docs' = docs ++ [identified id d] := by
  unfold insert at h
  dsimp only at h
  split at h
  · cases h
  · cases h
    rfl

end Table

variable [Regex.Engine]

/-- Whether a document is known to match a filter. -/
def Document.meets (d filter : Document) : Bool :=
  match d.matchesFilter .exact filter with
  | .ok verdict => verdict
  | .error _ => false

theorem Document.meets_of_ok {d filter : Document} {verdict : Bool}
    (h : d.matchesFilter .exact filter = .ok verdict) : d.meets filter = verdict := by
  rw [meets, h]

namespace Table

variable {rule : CaseRule} {filter : Document} {docs docs' : List Document}

/-- The search ends at the first match. -/
theorem splitFirst_eq_some {before first rest : List Document} {old : Document}
    (h : splitFirst rule filter before docs = .ok (some (first, old, rest))) :
    old.matchesFilter rule filter = .ok true ∧
      ∃ passed, first = passed.reverse ++ before ∧ docs = passed ++ old :: rest := by
  induction docs generalizing before with
  | nil => cases h
  | cons d more ih =>
    obtain ⟨matched, hmatched, hend⟩ := exists_of_bind_eq_ok h
    cases matched with
    | true =>
      cases hend
      exact ⟨hmatched, [], rfl, rfl⟩
    | false =>
      obtain ⟨hold, passed, hfirst, hmore⟩ := ih hend
      refine ⟨hold, d :: passed, ?_, congrArg (List.cons d) hmore⟩
      rw [hfirst, List.reverse_cons, List.append_assoc]
      rfl

/-- A search for the place of the first match, and what is put there. -/
theorem exchanged_of_splitFirst {first rest : List Document} {old : Document} (next : Document)
    (h : splitFirst rule filter [] docs = .ok (some (first, old, rest))) :
    old.matchesFilter rule filter = .ok true ∧
      Exchanged old next docs (first.reverse ++ next :: rest) := by
  obtain ⟨hold, passed, rfl, hdocs⟩ := splitFirst_eq_some h
  refine ⟨hold, passed, rest, hdocs, ?_⟩
  rw [List.append_nil, List.reverse_reverse]

theorem replace_eq_ok {replacement : Document} {result : UpdateResult}
    (h : replace filter replacement docs = .ok (result, docs')) :
    (result = {} ∧ docs' = docs) ∨ ∃ old, old.matchesFilter .exact filter = .ok true ∧
      Exchanged old (successor old replacement) docs docs' := by
  obtain ⟨found, hfound, hend⟩ := exists_of_bind_eq_ok h
  match found with
  | none =>
    cases hend
    exact .inl ⟨rfl, rfl⟩
  | some (first, old, rest) =>
    right
    dsimp only at hend
    split at hend
    · split at hend
      · cases hend
      · cases hend
        exact ⟨old, exchanged_of_splitFirst _ hfound⟩
    · cases hend
      exact ⟨old, exchanged_of_splitFirst _ hfound⟩

/-- What is left after a removal, which takes place only if the filter gives a verdict on every
document. -/
theorem reject_eq_ok_iff : reject filter docs = .ok docs' ↔
    (∀ d ∈ docs, ∃ verdict, d.matchesFilter .exact filter = .ok verdict) ∧
      docs' = docs.filter fun d => !d.meets filter := by
  induction docs generalizing docs' with
  | nil =>
    constructor
    · intro h
      cases h
      exact ⟨nofun, rfl⟩
    · rintro ⟨_, rfl⟩
      rfl
  | cons d rest ih =>
    rw [List.forall_mem_cons]
    constructor
    · intro h
      obtain ⟨matched, hmatched, hend⟩ := exists_of_bind_eq_ok h
      obtain ⟨kept, hkept, hresult⟩ := exists_of_bind_eq_ok hend
      obtain ⟨hverdicts, rfl⟩ := ih.1 hkept
      refine ⟨⟨⟨matched, hmatched⟩, hverdicts⟩, ?_⟩
      rw [List.filter_cons, Document.meets_of_ok hmatched]
      cases matched <;> cases hresult <;> rfl
    · rintro ⟨⟨⟨matched, hmatched⟩, hverdicts⟩, rfl⟩
      rw [reject, hmatched, ih.2 ⟨hverdicts, rfl⟩, List.filter_cons, Document.meets_of_ok hmatched]
      cases matched <;> rfl

theorem update_eq_ok {changes : Document} {result : UpdateResult}
    (h : update filter changes docs = .ok (result, docs')) :
    (result = {} ∧ docs' = docs) ∨ ∃ old next changed, old.matchesFilter .exact filter = .ok true ∧
      old.applyUpdate changes = .ok (next, changed) ∧ Exchanged old next docs docs' ∧
      result = ⟨1, if changed then 1 else 0⟩ := by
  obtain ⟨found, hfound, hend⟩ := exists_of_bind_eq_ok h
  match found with
  | none =>
    cases hend
    exact .inl ⟨rfl, rfl⟩
  | some (first, old, rest) =>
    right
    obtain ⟨⟨next, changed⟩, hupdate, hresult⟩ := exists_of_bind_eq_ok hend
    cases hresult
    obtain ⟨hold, hexchanged⟩ := exchanged_of_splitFirst next hfound
    exact ⟨old, next, changed, hold, hupdate, hexchanged, rfl⟩

end Table

namespace Host

open StoreAction

variable {context : Context} {session : Option SessionNumber} {collection : String} {s : Host}

/-- A command that gives an answer leaves the documents behind that it was run for. -/
theorem exists_of_issue_eq_ok {command : Command} {reply : Reply} {t : Host}
    (h : (issue context session collection command).on s = (.ok reply, t)) :
    ∃ docs, command.run (s.store.database ++ "." ++ collection) s.store.freshIdentity
        (s.store.visibleTables session collection) = .ok (reply, docs) ∧
      t.store.visibleTables session collection = docs := by
  have hmoves := issue_moves context session collection command s
  simp only [Call.run, h] at hmoves
  obtain ⟨hadmits, hledger, -, -⟩ := hmoves
  rw [Store.visibleTables_eq, Store.visibleTables_eq, hledger, Ledger.tablesFor_executed_self]
  simp only [Ledger.Admits, Execution.replay] at hadmits ⊢
  split at hadmits
  · cases hadmits
  · rw [Tables.execute] at hadmits ⊢
    split at hadmits
    · rename_i reply' docs hrun
      cases hadmits
      exact ⟨docs, hrun, if_pos rfl⟩
    · cases hadmits

/-- Reading the reply of a command changes nothing. -/
theorem on_reply_snd {command : Command} {answer : Reply → StoreAction α}
    (hanswer : ∀ reply s, (on (answer reply) s).2 = s) :
    (on (issue context session collection command >>= answer) s).2 =
      ((issue context session collection command).on s).2 := by
  rw [on_bind]
  rcases (issue context session collection command).on s with ⟨e | reply, t⟩
  · rfl
  · exact hanswer reply t

theorem replace_on_snd (filter replacement : Document) :
    ((replace context session collection filter replacement).on s).2 =
      ((issue context session collection (.replace filter replacement)).on s).2 :=
  on_reply_snd fun reply s => by cases reply <;> rfl

theorem update_on_snd (filter changes : Document) :
    ((update context session collection filter changes).on s).2 =
      ((issue context session collection (.update filter changes)).on s).2 :=
  on_reply_snd fun reply s => by cases reply <;> rfl

theorem update_eq_ok {filter changes : Document} {result : UpdateResult} {t : Host}
    (h : (update context session collection filter changes).on s = (.ok result, t)) :
    Table.update filter changes (s.store.visibleTables session collection) =
      .ok (result, t.store.visibleTables session collection) := by
  obtain ⟨reply, u, hissue, hreply⟩ := exists_of_on_bind_eq_ok h
  obtain ⟨docs, hrun, hdocs⟩ := exists_of_issue_eq_ok hissue
  obtain ⟨⟨result', kept⟩, hupdate, hend⟩ := exists_of_bind_eq_ok hrun
  cases hend
  cases hreply
  rw [hupdate, hdocs]

end Host

end DocStore
