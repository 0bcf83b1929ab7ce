import DocStore.Proofs.Document.Kept
import DocStore.Proofs.Document.Unreported
/-!
Reading and writing at a path. What is put at a path is read there, the last value that is put there
is the one that counts, and putting back what is there changes nothing. Writing is seen only at paths
that go on from the written one or that it goes on from.
-/
namespace DocStore

/-- Neither path goes on from the other one, segment by segment. -/
structure Apart (path other : String) : Prop where
  not_below : ¬pathSegments path <+: pathSegments other
  not_above : ¬pathSegments other <+: pathSegments path

theorem apart_of_pathHead_ne {path other : String} (h : pathHead path ≠ pathHead other) :
    Apart path other := by
  obtain ⟨rest, hpath⟩ := pathSegments_eq_cons path
  obtain ⟨rest', hother⟩ := pathSegments_eq_cons other
  refine ⟨?_, ?_⟩
  · rw [hpath, hother, List.cons_prefix_cons]
    exact fun hprefix => h hprefix.1
  · rw [hpath, hother, List.cons_prefix_cons]
    exact fun hprefix => h hprefix.1.symm

namespace Document

variable {act : Document → String → Document × Bool} {d fields : Document} {key : String}
  {v w : Value} {segments others : List String}

theorem child_insert (d : Document) (key : String) (fields : Document) :
    (d.insert key (.document fields)).child key = fields :=
  child_of_get? ((get?_insert d key key _).trans (if_pos rfl))

theorem insert_insert (d : Document) (key : String) (v w : Value) :
    (d.insert key v).insert key w = d.insert key w := by
  induction d with
  | nil => exact if_pos rfl
  | cons field rest ih =>
    obtain ⟨k, u⟩ := field
    rw [insert, insert]
    by_cases hk : k = key
    · rw [if_pos hk, if_pos hk, insert, if_pos hk]
    · rw [if_neg hk, if_neg hk, insert, if_neg hk, ih]

/-- A way that leads to something goes through a document. -/
theorem get?_of_follow?_child (h : (d.child key).follow? segments = some v) :
    d.get? key = some (.document (d.child key)) := by
  unfold child at h ⊢
  split at h
  · assumption
  · rw [follow?_empty] at h
    cases h

theorem follow?_set (h : segments ≠ []) (v : Value) (d : Document) :
    (d.modifyParent (insertNoting v) segments).1.follow? segments = some v := by
  induction segments generalizing d with
  | nil => exact absurd rfl h
  | cons key rest ih =>
    cases rest with
    | nil => exact (get?_insert d key key v).trans (if_pos rfl)
    | cons next more =>
      have hmore := List.cons_ne_nil next more
      rw [modifyParent_cons _ _ _ hmore, follow?_cons _ _ hmore, child_insert, ih hmore]

theorem set_set (segments : List String) (v w : Value) (d : Document) :
    ((d.modifyParent (insertNoting v) segments).1.modifyParent (insertNoting w) segments).1 =
      (d.modifyParent (insertNoting w) segments).1 := by
  induction segments generalizing d with
  | nil => rfl
  | cons key rest ih =>
    cases rest with
    | nil => exact insert_insert d key v w
    | cons next more =>
      have hmore := List.cons_ne_nil next more
      simp only [modifyParent_cons _ _ _ hmore, child_insert, ih, insert_insert]

/-- Putting back what is there changes nothing. -/
theorem set_of_follow? (h : d.follow? segments = some v) :
    d.modifyParent (insertNoting v) segments = (d, !v.equal v) := by
  induction segments generalizing d with
  | nil => cases h
  | cons key rest ih =>
    cases rest with
    | nil =>
      have hget : d.get? key = some v := h
      rw [modifyParent, insertNoting, insert_of_get? hget, hget]
      rfl
    | cons next more =>
      have hmore := List.cons_ne_nil next more
      rw [follow?_cons _ _ hmore] at h
      rw [modifyParent_cons _ _ _ hmore, ih h, insert_of_get? (get?_of_follow?_child h)]

theorem get?_erase_self (h : d.keys.Nodup) : (d.erase key).get? key = none := by
  apply get?_eq_none
  rw [keys_erase]
  exact h.not_mem_erase

theorem distinctKeys_child (h : (Value.document d).DistinctKeys) (key : String) :
    (Value.document (d.child key)).DistinctKeys := by
  unfold child
  split
  · rename_i inner hinner
    exact Value.distinctFields_iff.1 h.2 _ (mem_of_get? hinner)
  · exact ⟨List.nodup_nil, trivial⟩

/-- What was removed is gone, as no field has the same name. -/
theorem follow?_unset (h : (Value.document d).DistinctKeys) (segments : List String) :
    (d.modifyParent eraseNoting segments).1.follow? segments = none := by
  induction segments generalizing d with
  | nil => rfl
  | cons key rest ih =>
    cases rest with
    | nil => exact get?_erase_self h.1
    | cons next more =>
      have hmore := List.cons_ne_nil next more
      rw [modifyParent_cons _ _ _ hmore, follow?_cons _ _ hmore, child_insert,
        ih (distinctKeys_child h key)]

/-- Ways that part are not in each other's way. -/
theorem follow?_modifyParent_of_apart (hact : Local act) (hbelow : ¬segments <+: others)
    (habove : ¬others <+: segments) (d : Document) :
    (d.modifyParent act segments).1.follow? others = d.follow? others := by
  induction segments generalizing d others with
  | nil => exact absurd List.nil_prefix hbelow
  | cons key rest ih =>
    cases others with
    | nil => exact absurd List.nil_prefix habove
    | cons other more =>
      by_cases hkey : other = key
      · subst hkey
        rw [List.cons_prefix_cons, not_and] at hbelow habove
        have hrest : rest ≠ [] := by
          rintro rfl
          exact hbelow rfl List.nil_prefix
        have hmore : more ≠ [] := by
          rintro rfl
          exact habove rfl List.nil_prefix
        rw [modifyParent_cons _ _ _ hrest, follow?_cons _ _ hmore, follow?_cons _ _ hmore,
          child_insert, ih (hbelow rfl) (habove rfl)]
      · refine follow?_congr (get?_modifyParent_of_ne hact ?_ d) more
        rintro ⟨⟩
        exact hkey rfl

variable {path other : String}

theorem at?_eq_follow? (hpath : path ≠ "") (hdepth : (pathSegments path).length ≤ maxPathDepth)
    (d : Document) : d.at? path = d.follow? (pathSegments path) := by
  have hshown : ¬(path = "" ∨ maxPathDepth < (pathSegments path).length) := by
    rintro (h | h)
    · exact hpath h
    · omega
  exact if_neg hshown

theorem at?_modifyParent_of_apart (hact : Local act) (h : Apart path other) (d : Document) :
    (d.modifyParent act (pathSegments path)).1.at? other = d.at? other := by
  rw [at?, at?, follow?_modifyParent_of_apart hact h.not_below h.not_above]

/-- At a path that is not blank and no deeper than documents are read, reading and writing are the two
halves of a lens, and a removal leaves nothing to read. Neither is noticed at any path apart from it. -/
theorem path_lens (hpath : path ≠ "") (hdepth : (pathSegments path).length ≤ maxPathDepth)
    (d : Document) :
    (∀ v, (d.setAt path v).1.at? path = some v) ∧
    (∀ v w, ((d.setAt path v).1.setAt path w).1 = (d.setAt path w).1) ∧
    (∀ v, d.at? path = some v →
      (d.setAt path v).1 = d ∧ (v.equal v = true → (d.setAt path v).2 = false)) ∧
    ((Value.document d).DistinctKeys → (d.unsetAt path).1.at? path = none) ∧
    ∀ other, Apart path other →
      (∀ v, (d.setAt path v).1.at? other = d.at? other) ∧
        (d.unsetAt path).1.at? other = d.at? other := by
  have hread := at?_eq_follow? hpath hdepth
  refine ⟨fun v => ?_, fun v w => set_set _ v w d, fun v hv => ?_, fun hd => ?_, fun other h => ?_⟩
  · rw [hread]
    exact follow?_set (pathSegments_ne_nil path) v d
  · rw [hread] at hv
    rw [setAt, set_of_follow? hv]
    refine ⟨rfl, fun hequal => ?_⟩
    rw [hequal]
    rfl
  · rw [hread]
    exact follow?_unset hd _
  · exact ⟨fun v => at?_modifyParent_of_apart (local_insertNoting v) h d,
      at?_modifyParent_of_apart local_eraseNoting h d⟩

/-- The way leads through an array and over a segment without a name; both become documents. -/
theorem path_lens_blank :
    let d : Document := [("_id", .int32 1), ("a", .array [.int32 2]), ("", .document [("x", .int32 5)])]
    let written := (d.setAt "a..b" (.int32 3)).1
    written.at? "a..b" = some (.int32 3) ∧ written.at? ".x" = some (.int32 5) ∧
      (written.unsetAt "a..b").1.at? "a..b" = none := by
  intro d written
  have hpath : "a..b" ≠ "" := by decide
  have hlens := path_lens hpath (by decide)
  obtain ⟨hread, -, -, -, hapart⟩ := hlens d
  obtain ⟨-, -, -, hgone, -⟩ := hlens written
  have hdistinct : (Value.document written).DistinctKeys :=
    ⟨by decide, trivial, ⟨by decide, ⟨by decide, trivial, trivial⟩, trivial⟩,
      ⟨by decide, trivial, trivial⟩, trivial⟩
  exact ⟨hread _, ((hapart ".x" ⟨by decide, by decide⟩).1 _).trans rfl, hgone hdistinct⟩

end Document

end DocStore
