import DocStore.Proofs.Document.Fields
import DocStore.Proofs.Store.Ledger
/-!
Modifications by path. A modification works its way down from the field that the first segment of
its path names, and touches no other field. An update that succeeds is a run of its modifications,
and reports a change if one of them does.
-/
namespace DocStore

theorem segmentsOf_ne_nil (l : List Char) : segmentsOf l ≠ [] := by
  cases l with
  | nil => exact List.cons_ne_nil _ _
  | cons c rest =>
    rw [segmentsOf]
    split
    · exact List.cons_ne_nil _ _
    · split
      · exact List.cons_ne_nil _ _
      · exact List.cons_ne_nil _ _

theorem segmentsOf_append_dot {first : List Char} (h : '.' ∉ first) (rest : List Char) :
    segmentsOf (first ++ '.' :: rest) = first :: segmentsOf rest := by
  induction first with
  | nil => rfl
  | cons c more ih =>
    rw [List.mem_cons, not_or] at h
    rw [List.cons_append, segmentsOf, if_neg (Ne.symm h.1), ih h.2]

/-- The first segment ends with the text or at a dot. -/
theorem eq_of_segmentsOf_eq_cons {l first : List Char} {more : List (List Char)}
    (h : segmentsOf l = first :: more) :
    (more = [] ∧ l = first) ∨ ∃ rest, l = first ++ '.' :: rest ∧ segmentsOf rest = more := by
  induction l generalizing first with
  | nil =>
    cases h
    exact .inl ⟨rfl, rfl⟩
  | cons c rest ih =>
    rw [segmentsOf] at h
    by_cases hdot : c = '.'
    · rw [if_pos hdot] at h
      cases h
      exact .inr ⟨rest, by rw [hdot]; rfl, rfl⟩
    · rw [if_neg hdot] at h
      cases hrest : segmentsOf rest with
      | nil => exact absurd hrest (segmentsOf_ne_nil rest)
      | cons next others =>
        rw [hrest] at h
        cases h
        rcases ih hrest with ⟨hmore, hnext⟩ | ⟨rest', hnext, hmore⟩
        · exact .inl ⟨hmore, congrArg (List.cons c) hnext⟩
        · exact .inr ⟨rest', congrArg (List.cons c) hnext, hmore⟩

theorem pathSegments_ne_nil (path : String) : pathSegments path ≠ [] := by
  intro h
  exact segmentsOf_ne_nil _ (List.map_eq_nil_iff.1 h)

theorem eq_of_pathSegments_eq_singleton {path key : String} (h : pathSegments path = [key]) :
    path = key := by
  obtain ⟨first, hsegments, rfl⟩ := List.map_eq_singleton_iff.1 h
  rcases eq_of_segmentsOf_eq_cons hsegments with ⟨_, hpath⟩ | ⟨rest, _, hrest⟩
  · rw [← hpath, String.ofList_toList]
  · exact absurd hrest (segmentsOf_ne_nil rest)

/-- One modifier of an update, on one path. -/
structure Modification where
  modifier : String
  path : String
  argument : Value

namespace Document

variable {act : Document → String → Document × Bool} {d d' : Document}

/-- An act on one field leaves all others as they are. -/
def Local (act : Document → String → Document × Bool) : Prop :=
  ∀ d key other, other ≠ key → (act d key).1.get? other = d.get? other

theorem local_insertNoting (v : Value) : Local (insertNoting v) := by
  intro d key other h
  rw [insertNoting, get?_insert, if_neg h]

theorem local_eraseNoting : Local eraseNoting :=
  fun d _ _ h => get?_erase_of_ne h d

/-- What is done below one field leaves all others as they are. -/
theorem get?_modifyParent_of_ne (hact : Local act) {segments : List String} {other : String}
    (h : segments.head? ≠ some other) (d : Document) :
    (d.modifyParent act segments).1.get? other = d.get? other := by
  match segments with
  | [] => rfl
  | [key] => exact hact d key other fun heq => h (by rw [heq]; rfl)
  | key :: next :: rest =>
    rw [modifyParent, get?_insert, if_neg fun heq => h (by rw [heq]; rfl)]
    exact List.cons_ne_nil next rest

theorem modifyParent_cons (act : Document → String → Document × Bool) (d : Document) (key : String)
    {rest : List String} (h : rest ≠ []) :
    d.modifyParent act (key :: rest) =
      (d.insert key (.document ((d.child key).modifyParent act rest).1),
        ((d.child key).modifyParent act rest).2) := by
  rw [modifyParent]
  exact h

/-- A field with more segments below it is a document afterwards. -/
theorem get?_modifyParent_cons (act : Document → String → Document × Bool) (d : Document)
    (key : String) {rest : List String} (h : rest ≠ []) :
    (d.modifyParent act (key :: rest)).1.get? key =
      some (.document ((d.child key).modifyParent act rest).1) := by
  rw [modifyParent_cons act d key h, get?_insert, if_pos rfl]

theorem child_of_get? {key : String} {fields : Document} (h : d.get? key = some (.document fields)) :
    d.child key = fields := by
  rw [child, h]

/-- A modification that succeeds removes the value at its path or puts one there. -/
theorem modify_eq_ok {modifier path : String} {argument : Value} {result : Document × Bool}
    (h : d.modify modifier path argument = .ok result) :
    path ≠ "_id" ∧ ((modifier = "$unset" ∧ result = d.unsetAt path) ∨
      (modifier ≠ "$unset" ∧ ∃ v, result = d.setAt path v)) := by
  unfold modify at h
  by_cases hpath : path = "_id"
  · rw [if_pos hpath] at h
    cases h
  · rw [if_neg hpath] at h
    refine ⟨hpath, ?_⟩
    split at h
    · cases h
      exact .inr ⟨by decide, argument, rfl⟩
    · cases h
      exact .inl ⟨rfl, rfl⟩
    · split at h
      · rename_i sum _
        cases h
        exact .inr ⟨by decide, sum, rfl⟩
      · cases h
    · cases h

/-- The modifications of an update, in order. -/
def modifications (update : Document) : List Modification :=
  update.flatMap fun
    | (modifier, .document fields) => fields.map fun (path, argument) => ⟨modifier, path, argument⟩
    | _ => []

/-- A run of modifications leads from one document to another, and says whether one of them reported
a change. -/
inductive Modified : Document → List Modification → Bool → Document → Prop
  | nil (d : Document) : Modified d [] false d
  | cons {d next d' : Document} {m : Modification} {rest : List Modification} {here later : Bool} :
    d.modify m.modifier m.path m.argument = .ok (next, here) → Modified next rest later d' →
      Modified d (m :: rest) (here || later) d'

theorem Modified.append {first rest : List Modification} {next : Document} {here later : Bool}
    (h : Modified d first here next) (h' : Modified next rest later d') :
    Modified d (first ++ rest) (here || later) d' := by
  induction h with
  | nil d => exact h'
  | cons hmodify _ ih =>
    rw [Bool.or_assoc]
    exact .cons hmodify (ih h')

theorem modified_of_modifyAll {modifier : String} {fields : List (String × Value)}
    {before changed : Bool} (h : d.modifyAll modifier before fields = .ok (d', changed)) :
    ∃ here, changed = (before || here) ∧
      Modified d (fields.map fun (path, argument) => ⟨modifier, path, argument⟩) here d' := by
  induction fields generalizing d before with
  | nil =>
    cases h
    exact ⟨false, (Bool.or_false _).symm, .nil _⟩
  | cons field rest ih =>
    obtain ⟨⟨next, here⟩, hmodify, hrest⟩ := exists_of_bind_eq_ok h
    obtain ⟨later, hchanged, hmodified⟩ := ih hrest
    exact ⟨here || later, by rw [hchanged, Bool.or_assoc], .cons hmodify hmodified⟩

theorem modified_of_applyModifiers {update : List (String × Value)} {before changed : Bool}
    (h : d.applyModifiers before update = .ok (d', changed)) :
    ∃ here, changed = (before || here) ∧ Modified d (modifications update) here d' := by
  induction update generalizing d before with
  | nil =>
    cases h
    exact ⟨false, (Bool.or_false _).symm, .nil _⟩
  | cons entry rest ih =>
    obtain ⟨modifier, argument⟩ := entry
    cases argument with
    | document fields =>
      obtain ⟨⟨next, changed'⟩, hall, hrest⟩ := exists_of_bind_eq_ok h
      obtain ⟨here, rfl, hmodified⟩ := modified_of_modifyAll hall
      obtain ⟨later, hchanged, hmodified'⟩ := ih hrest
      exact ⟨here || later, by rw [hchanged, Bool.or_assoc], hmodified.append hmodified'⟩
    | _ => cases h

/-- An update that succeeds is a run of its modifications. -/
theorem modified_of_applyUpdate {update : Document} {changed : Bool}
    (h : d.applyUpdate update = .ok (d', changed)) :
    Modified d (modifications update) changed d' := by
  rw [applyUpdate] at h
  split at h
  · cases h
  · obtain ⟨here, hchanged, hmodified⟩ := modified_of_applyModifiers h
    rw [Bool.false_or] at hchanged
    rwa [hchanged]

end Document

end DocStore
