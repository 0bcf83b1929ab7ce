import DocStore.Document.Update
/-!
The fields of a document. Setting the fields of one document in another gives each of them its new
value and leaves all others as they were, provided that no field is named like a path.
-/
namespace DocStore

namespace Document

variable {key other : String} {v : Value} {d fields : Document}

theorem get?_cons (key other : String) (v : Value) (d : Document) :
    get? ((key, v) :: d) other = if other = key then some v else get? d other := by
  by_cases h : other = key
  · subst h
    rw [if_pos rfl]
    exact List.lookup_cons_self
  · rw [if_neg h, get?, List.lookup_cons, beq_false_of_ne h]
    rfl

theorem get?_insert (d : Document) (key other : String) (v : Value) :
    (d.insert key v).get? other = if other = key then some v else d.get? other := by
  induction d with
  | nil => exact get?_cons key other v []
  | cons field rest ih =>
    obtain ⟨k, w⟩ := field
    rw [insert]
    by_cases hk : k = key
    · subst hk
      rw [if_pos rfl, get?_cons, get?_cons]
      by_cases h : other = k
      · rw [if_pos h, if_pos h]
      · rw [if_neg h, if_neg h, if_neg h]
    · rw [if_neg hk, get?_cons, get?_cons, ih]
      by_cases h : other = k
      · subst h
        rw [if_pos rfl, if_pos rfl, if_neg hk]
      · rw [if_neg h, if_neg h]

theorem get?_erase_of_ne (h : other ≠ key) (d : Document) :
    (d.erase key).get? other = d.get? other := by
  induction d with
  | nil => rfl
  | cons field rest ih =>
    obtain ⟨k, w⟩ := field
    rw [erase]
    by_cases hk : k = key
    · subst hk
      rw [if_pos rfl, get?_cons, if_neg h]
    · rw [if_neg hk, get?_cons, get?_cons, ih]

theorem get?_eq_none (h : key ∉ d.keys) : d.get? key = none := by
  rw [get?, List.lookup_eq_none_iff]
  intro field hfield
  exact bne_iff_ne.2 fun heq => h (heq ▸ List.mem_map_of_mem hfield)

theorem keys_erase (d : Document) (key : String) : (d.erase key).keys = d.keys.erase key := by
  induction d with
  | nil => rfl
  | cons field rest ih =>
    obtain ⟨k, w⟩ := field
    rw [erase]
    by_cases hk : k = key
    · subst hk
      rw [if_pos rfl]
      exact (List.erase_cons_head k (keys rest)).symm
    · rw [if_neg hk]
      change k :: (erase rest key).keys = (k :: keys rest).erase key
      rw [ih, List.erase_cons_tail (by simpa using hk)]

/-- Each field has a name of its own, and none is named like a path. -/
structure Plain (d : Document) : Prop where
  nodup : d.keys.Nodup
  undotted : ∀ key ∈ d.keys, '.' ∉ key.toList

theorem Plain.tail {field : String × Value} (h : Plain (field :: d)) : d.Plain :=
  ⟨(List.nodup_cons.1 h.nodup).2, fun key hkey => h.undotted key (List.mem_cons_of_mem _ hkey)⟩

theorem Plain.erase (h : d.Plain) (key : String) : (d.erase key).Plain := by
  refine ⟨?_, ?_⟩
  · rw [keys_erase]
    exact h.nodup.erase key
  · intro other hother
    rw [keys_erase] at hother
    exact h.undotted other (List.mem_of_mem_erase hother)

theorem Plain.not_mem_erase (h : d.Plain) (key : String) : key ∉ (d.erase key).keys := by
  rw [keys_erase]
  exact h.nodup.not_mem_erase

theorem segmentsOf_undotted {l : List Char} (h : '.' ∉ l) : segmentsOf l = [l] := by
  induction l with
  | nil => rfl
  | cons c rest ih =>
    rw [List.mem_cons, not_or] at h
    rw [segmentsOf, if_neg (Ne.symm h.1), ih h.2]

theorem setAt_undotted (h : '.' ∉ key.toList) (d : Document) (v : Value) :
    d.setAt key v = insertNoting v d key := by
  have hsegments : pathSegments key = [key] := by
    rw [pathSegments, segmentsOf_undotted h, List.map_singleton, String.ofList_toList]
  rw [setAt, hsegments, modifyParent]

/-- One document has the fields of another one in place of its own. -/
def Updated (d fields d' : Document) : Prop :=
  ∀ key, d'.get? key = (fields.get? key).or (d.get? key)

theorem modifyAll_set (h : fields.Plain) (hid : "_id" ∉ fields.keys) (d : Document)
    (changed : Bool) :
    ∃ d' changed', d.modifyAll "$set" changed fields = .ok (d', changed') ∧
      Updated d fields d' := by
  induction fields generalizing d changed with
  | nil => exact ⟨d, changed, rfl, fun key => rfl⟩
  | cons field rest ih =>
    obtain ⟨k, v⟩ := field
    have hk : '.' ∉ k.toList := h.undotted k List.mem_cons_self
    have hne : k ≠ "_id" := fun heq => hid (heq ▸ List.mem_cons_self)
    have hfresh : k ∉ keys rest := (List.nodup_cons.1 h.nodup).1
    have hid' : "_id" ∉ keys rest := fun hmem => hid (List.mem_cons_of_mem _ hmem)
    obtain ⟨d', changed', hrest, hupdated⟩ :=
      ih h.tail hid' (d.insert k v) (changed || (insertNoting v d k).2)
    have hmodify : d.modify "$set" k v = .ok (insertNoting v d k) := by
      rw [modify, if_neg hne, ← setAt_undotted hk]
    refine ⟨d', changed', ?_, ?_⟩
    · rw [modifyAll, hmodify]
      exact hrest
    · intro key
      rw [hupdated key, get?_insert, get?_cons]
      by_cases hkey : key = k
      · subst hkey
        rw [if_pos rfl, if_pos rfl, get?_eq_none hfresh]
        rfl
      · rw [if_neg hkey, if_neg hkey]

/-- Setting plain fields, without an identity among them, does not fail. -/
theorem applyUpdate_set (h : fields.Plain) (hid : "_id" ∉ fields.keys) (d : Document) :
    ∃ d' changed, d.applyUpdate [("$set", .document fields)] = .ok (d', changed) ∧
      Updated d fields d' := by
  obtain ⟨d', changed, hmodify, hupdated⟩ := modifyAll_set h hid d false
  refine ⟨d', changed, ?_, hupdated⟩
  rw [applyUpdate, if_neg (by simp), applyModifiers, hmodify]
  rfl

end Document

end DocStore
