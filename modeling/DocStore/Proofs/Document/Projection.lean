import DocStore.Document.Projection
import DocStore.Proofs.Document.Paths
import DocStore.Proofs.Value.Equality
import DocStore.Query.Option
import Mathlib.Data.Option.Basic
/-!
Projections to named fields. If one of the names is that of a field besides the identity, the result
has the identity and what stands at the named paths, each under its whole path; otherwise it is the
whole document.
-/
namespace DocStore

namespace Document

variable {d e : Document} {key : String} {paths : List String}

/-! Putting several fields. -/

theorem insert_of_not_mem (h : key ∉ d.keys) (v : Value) : d.insert key v = d ++ [(key, v)] := by
  induction d with
  | nil => rfl
  | cons field rest ih =>
    obtain ⟨k, w⟩ := field
    obtain ⟨hk, hrest⟩ := List.ne_and_not_mem_of_not_mem_cons h
    rw [insert, if_neg (Ne.symm hk), ih hrest]
    rfl

/-- Fields with names of their own are put behind all others. -/
theorem insertAll_of_fresh {pairs : Document} (hnodup : pairs.keys.Nodup)
    (hfresh : ∀ key ∈ pairs.keys, key ∉ d.keys) : d.insertAll pairs = d ++ pairs := by
  induction pairs generalizing d with
  | nil => exact (List.append_nil d).symm
  | cons field rest ih =>
    obtain ⟨k, v⟩ := field
    obtain ⟨hk, hnodup⟩ := List.nodup_cons.1 hnodup
    have hinsert : d.insert k v = d ++ [(k, v)] :=
      insert_of_not_mem (hfresh k List.mem_cons_self) v
    have hrest : ∀ key ∈ keys rest, key ∉ keys (d ++ [(k, v)]) := by
      intro key hkey hmem
      rw [keys, List.map_append, List.mem_append] at hmem
      rcases hmem with hmem | hmem
      · exact hfresh key (List.mem_cons_of_mem k hkey) hmem
      · exact hk (List.mem_singleton.1 hmem ▸ hkey)
    change insertAll (d.insert k v) rest = _
    rw [hinsert, ih hnodup hrest, List.append_assoc]
    rfl

theorem mem_keys_insert {other : String} (v : Value) :
    other ∈ (d.insert key v).keys ↔ other ∈ d.keys ∨ other = key := by
  induction d with
  | nil => exact List.mem_singleton.trans (or_iff_right List.not_mem_nil).symm
  | cons field rest ih =>
    obtain ⟨k, w⟩ := field
    rw [insert]
    by_cases hk : k = key
    · subst hk
      rw [if_pos rfl]
      exact (or_iff_left_of_imp fun h => h ▸ List.mem_cons_self).symm
    · rw [if_neg hk]
      change other ∈ k :: (insert rest key v).keys ↔ other ∈ k :: keys rest ∨ other = key
      rw [List.mem_cons, List.mem_cons, ih, or_assoc]

theorem nodup_keys_insert (h : d.keys.Nodup) (v : Value) : (d.insert key v).keys.Nodup := by
  induction d with
  | nil => exact List.pairwise_singleton _ key
  | cons field rest ih =>
    obtain ⟨k, w⟩ := field
    obtain ⟨hfresh, hrest⟩ := List.nodup_cons.1 h
    rw [insert]
    by_cases hk : k = key
    · rw [if_pos hk]
      exact h
    · rw [if_neg hk]
      refine List.nodup_cons.2 ⟨fun hmem => ?_, ih hrest⟩
      rcases (mem_keys_insert v).1 hmem with hmem | heq
      · exact hfresh hmem
      · exact hk heq

theorem mem_insert {field : String × Value} {v : Value} (h : field ∈ d.insert key v) :
    field ∈ d ∨ field = (key, v) := by
  induction d with
  | nil => exact .inr (List.mem_singleton.1 h)
  | cons first rest ih =>
    obtain ⟨k, w⟩ := first
    rw [insert] at h
    by_cases hk : k = key
    · rw [if_pos hk, List.mem_cons] at h
      rcases h with rfl | h
      · exact .inr (by rw [hk])
      · exact .inl (List.mem_cons_of_mem _ h)
    · rw [if_neg hk, List.mem_cons] at h
      rcases h with rfl | h
      · exact .inl List.mem_cons_self
      · exact (ih h).imp (List.mem_cons_of_mem _) id

/-- The names in a document that is put together are the given ones, each of them once. -/
theorem keys_insertAll (hd : d.keys.Nodup) (pairs : Document) :
    (d.insertAll pairs).keys.Nodup ∧
      ∀ key, key ∈ (d.insertAll pairs).keys ↔ key ∈ d.keys ∨ key ∈ pairs.keys := by
  induction pairs generalizing d with
  | nil => exact ⟨hd, fun key => (or_iff_left List.not_mem_nil).symm⟩
  | cons field rest ih =>
    obtain ⟨k, v⟩ := field
    have hinsert : (d.insert k v).keys.Nodup := nodup_keys_insert hd v
    obtain ⟨hnodup, hmem⟩ := ih hinsert
    refine ⟨hnodup, fun key => (hmem key).trans ?_⟩
    change _ ↔ key ∈ d.keys ∨ key ∈ k :: keys rest
    rw [mem_keys_insert, List.mem_cons, or_assoc]

theorem mem_insertAll {field : String × Value} {pairs : Document} (h : field ∈ d.insertAll pairs) :
    field ∈ d ∨ field ∈ pairs := by
  induction pairs generalizing d with
  | nil => exact .inl h
  | cons first rest ih =>
    rcases ih h with h | h
    · refine (mem_insert h).imp id fun heq => ?_
      rw [heq]
      exact List.mem_cons_self
    · exact .inr (List.mem_cons_of_mem _ h)

/-! Picking fields by their paths. -/

/-- What stands at some paths, each under its whole path. -/
def pick (d : Document) (paths : List String) : Document :=
  paths.filterMap fun path => (d.at? path).map fun v => (path, v)

theorem mem_pick {v : Value} : (key, v) ∈ d.pick paths ↔ key ∈ paths ∧ d.at? key = some v := by
  rw [pick, List.mem_filterMap]
  constructor
  · rintro ⟨path, hpath, hfield⟩
    obtain ⟨w, hw, heq⟩ := Option.map_eq_some_iff.1 hfield
    cases heq
    exact ⟨hpath, hw⟩
  · rintro ⟨hpath, hv⟩
    exact ⟨key, hpath, by rw [hv]; rfl⟩

theorem pick_cons (path : String) (paths : List String) :
    d.pick (path :: paths) = match d.at? path with
      | some v => (path, v) :: d.pick paths
      | none => d.pick paths := by
  rw [pick, List.filterMap_cons]
  cases d.at? path <;> rfl

theorem pick_append (d : Document) (paths more : List String) :
    d.pick (paths ++ more) = d.pick paths ++ d.pick more := List.filterMap_append

theorem keys_pick (d : Document) (paths : List String) :
    (d.pick paths).keys = paths.filter fun path => (d.at? path).isSome := by
  induction paths with
  | nil => rfl
  | cons path rest ih =>
    rw [pick_cons, List.filter_cons]
    cases d.at? path with
    | none => exact ih
    | some v => exact congrArg (List.cons path) ih

theorem get?_pick (d : Document) (paths : List String) (key : String) :
    (d.pick paths).get? key = if key ∈ paths then d.at? key else none := by
  induction paths with
  | nil => rfl
  | cons path rest ih =>
    rw [pick_cons]
    by_cases hkey : key = path
    · subst hkey
      rw [if_pos List.mem_cons_self]
      cases hv : d.at? key with
      | some v => exact (get?_cons key key v _).trans (if_pos rfl)
      | none =>
        dsimp only
        rw [ih, hv, ite_self]
    · have hmem : key ∈ path :: rest ↔ key ∈ rest := List.mem_cons.trans (or_iff_right hkey)
      have hrest : (if key ∈ path :: rest then d.at? key else none) =
          if key ∈ rest then d.at? key else none := if_congr hmem rfl rfl
      rw [hrest, ← ih]
      cases d.at? path with
      | some v => exact (get?_cons path key v _).trans (if_neg hkey)
      | none => rfl

theorem pick_eq_pick_iff : d.pick paths = e.pick paths ↔ ∀ path ∈ paths, d.at? path = e.at? path := by
  constructor
  · intro h path hpath
    have hget := congrArg (fun r => get? r path) h
    simpa only [get?_pick, if_pos hpath] using hget
  · intro h
    induction paths with
    | nil => rfl
    | cons path rest ih =>
      obtain ⟨hpath, hrest⟩ := List.forall_mem_cons.1 h
      rw [pick_cons, pick_cons, hpath, ih hrest]

/-- Equal values stand at a path of two documents, or none in both. -/
def EqualAt (d e : Document) (path : String) : Prop :=
  Option.Rel (fun v w => Value.equal v w = true) (d.at? path) (e.at? path)

theorem EqualAt.isSome_eq {path : String} (h : EqualAt d e path) :
    (d.at? path).isSome = (e.at? path).isSome := by
  rw [EqualAt] at h
  generalize d.at? path = x, e.at? path = y at h ⊢
  cases h <;> rfl

theorem EqualAt.exists_of_some {path : String} {v : Value} (h : EqualAt d e path)
    (hv : d.at? path = some v) : ∃ w, e.at? path = some w ∧ v.equal w = true := by
  rw [EqualAt, hv] at h
  generalize e.at? path = y at h ⊢
  cases h with
  | some hequal => exact ⟨_, rfl, hequal⟩

/-- Equal values at all paths make equal documents. -/
theorem equal_pick (h : ∀ path ∈ paths, EqualAt d e path) :
    (d.pick paths).equal (e.pick paths) = true := by
  rw [Document.equal, Bool.and_eq_true, beq_iff_eq]
  constructor
  · have hkeys : (d.pick paths).keys = (e.pick paths).keys := by
      rw [keys_pick, keys_pick, List.filter_congr fun path hpath => (h path hpath).isSome_eq]
    simpa only [keys, List.length_map] using congrArg List.length hkeys
  · rw [Value.equalFields_iff]
    rintro ⟨path, v⟩ hmem
    obtain ⟨hpath, hv⟩ := mem_pick.1 hmem
    rw [get?_pick, if_pos hpath]
    exact (h path hpath).exists_of_some hv

/-- Gathering fields is putting what is picked. -/
theorem gather_eq (d result : Document) (paths : List String) :
    d.gather result paths = result.insertAll (d.pick paths) := by
  rw [insertAll, pick, List.foldl_filterMap, gather]
  congr 1
  funext r path
  cases d.at? path <;> rfl

theorem pathSegments_undotted {path : String} (h : '.' ∉ path.toList) : pathSegments path = [path] := by
  rw [pathSegments, segmentsOf_undotted h, List.map_singleton, String.ofList_toList]

/-- A path without a dot is the name of a field. -/
theorem at?_undotted {path : String} (hpath : path ≠ "") (h : '.' ∉ path.toList) (d : Document) :
    d.at? path = d.get? path := by
  rw [at?, pathSegments_undotted h, if_neg]
  · rfl
  · exact not_or_intro hpath (Nat.not_lt.2 (Nat.le_add_left 1 31))

theorem at?_id (d : Document) : d.at? "_id" = d.get? "_id" := at?_undotted (by decide) (by decide) d

end Document

namespace QueryOption

open Document

variable {name : String} {names : List String} {d : Document}

/-- Every name is included. -/
theorem mem_projection {field : String × Value} (h : field ∈ projection names) :
    field.2 = .int32 1 := by
  rcases mem_insertAll h with h | h
  · cases h
  · obtain ⟨name, -, rfl⟩ := List.mem_map.1 h
    rfl

theorem truthy_of_mem_projection {field : String × Value} (h : field ∈ projection names) :
    field.2.truthy = true := by
  rw [mem_projection h]
  rfl

/-- The paths that the projection to some names picks, if there is one besides the identity. -/
def shownPaths (names : List String) : List String := "_id" :: includedFields (projection names)

theorem includedFields_projection (names : List String) :
    includedFields (projection names) = (projection names).keys.filter (· != "_id") := by
  have htruthy : ∀ field ∈ projection names,
      (field.1 != "_id" && field.2.truthy) = (field.1 != "_id") := by
    intro field hfield
    rw [truthy_of_mem_projection hfield, Bool.and_true]
  rw [keys, List.filter_map]
  exact congrArg (List.map Prod.fst) (List.filter_congr htruthy)

theorem mem_keys_projection : name ∈ (projection names).keys ↔ name ∈ names ∧ name ≠ "" := by
  have hkeys := (keys_insertAll (d := []) List.nodup_nil
    ((names.filter (· != "")).map fun name => (name, .int32 1))).2 name
  refine hkeys.trans ((or_iff_right List.not_mem_nil).trans ?_)
  rw [keys, List.map_map, List.mem_map]
  simp

theorem mem_includedFields :
    name ∈ includedFields (projection names) ↔ name ∈ names ∧ name ≠ "" ∧ name ≠ "_id" := by
  rw [includedFields_projection, List.mem_filter, mem_keys_projection, bne_iff_ne, and_assoc]

theorem nodup_includedFields (names : List String) : (includedFields (projection names)).Nodup := by
  rw [includedFields_projection]
  exact (keys_insertAll (d := []) List.nodup_nil _).1.filter _

/-- What the projection to some names leaves of a document. -/
theorem project_projection (names : List String) (d : Document) :
    d.project (projection names) =
      if includedFields (projection names) = [] then d else d.pick (shownPaths names) := by
  rw [project, shownPaths]
  have hnodup := nodup_includedFields names
  have hid : "_id" ∉ includedFields (projection names) := fun h => (mem_includedFields.1 h).2.2 rfl
  have hexcluded : (projection names).filter (fun field => !field.2.truthy) = [] := by
    rw [List.filter_eq_nil_iff]
    intro field hfield
    simp [truthy_of_mem_projection hfield]
  have hkeeps : keepsIdentity (projection names) = true := by
    rw [keepsIdentity]
    split
    · rename_i v hv
      exact truthy_of_mem_projection (mem_of_get? hv)
    · rfl
  generalize includedFields (projection names) = included at hnodup hid ⊢
  cases included with
  | nil =>
    change d.eraseAll (((projection names).filter fun field => !field.2.truthy).map Prod.fst) = d
    rw [hexcluded]
    rfl
  | cons name rest =>
    dsimp only
    -- no included field is named like the identity, so each is put behind it
    have hfresh : ∀ key ∈ (d.pick (name :: rest)).keys, key ∉ (d.pick ["_id"]).keys := by
      intro key hkey hmem
      rw [keys_pick] at hkey hmem
      have heq := List.mem_singleton.1 (List.mem_of_mem_filter hmem)
      exact hid (heq ▸ List.mem_of_mem_filter hkey)
    have hkeys : (d.pick (name :: rest)).keys.Nodup := by
      rw [keys_pick]
      exact hnodup.filter _
    have hpick : d.pick ("_id" :: name :: rest) =
        (d.pick ["_id"]).insertAll (d.pick (name :: rest)) :=
      (d.pick_append ["_id"] (name :: rest)).trans (insertAll_of_fresh hkeys hfresh).symm
    rw [if_pos hkeeps, if_neg (List.cons_ne_nil name rest), gather_eq, hpick, pick_cons "_id",
      at?_id]
    cases d.get? "_id" <;> rfl

/-- One of some names is that of a field besides the identity. -/
def NamesField (names : List String) : Prop := ∃ name ∈ names, name ≠ "" ∧ name ≠ "_id"

theorem includedFields_eq_nil_iff :
    includedFields (projection names) = [] ↔ ¬NamesField names := by
  rw [List.eq_nil_iff_forall_not_mem, NamesField]
  simp only [mem_includedFields, not_exists]

theorem project_of_namesField (h : NamesField names) (d : Document) :
    d.project (projection names) = d.pick (shownPaths names) := by
  rw [project_projection, if_neg fun hnil => includedFields_eq_nil_iff.1 hnil h]

theorem project_of_not_namesField (h : ¬NamesField names) (d : Document) :
    d.project (projection names) = d := by
  rw [project_projection, if_pos (includedFields_eq_nil_iff.2 h)]

theorem mem_shownPaths {path : String} :
    path ∈ shownPaths names ↔ path = "_id" ∨ (path ∈ names ∧ path ≠ "") := by
  rw [shownPaths, List.mem_cons, mem_includedFields]
  by_cases hid : path = "_id" <;> simp [hid]

theorem mem_of_mem_shownPaths {path : String} (h : path ∈ shownPaths names) :
    path ∈ "_id" :: names :=
  List.mem_cons.2 ((mem_shownPaths.1 h).imp_right And.left)

end QueryOption

end DocStore
