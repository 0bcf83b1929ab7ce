import DocStore.Proofs.Document.Projection
import DocStore.Proofs.Document.Sorting
import DocStore.Proofs.Filter.Paths
import DocStore.Regex.Default
/-!
What a projection to named fields keeps in its place. What stands at a path is put under the whole
path, so it is found again only if the field that the path begins with is shown as well. Where this
is so for every name that leads somewhere, reading at the names does not notice the projection.
-/
namespace DocStore

open Document

/-- The field that a path begins with. -/
def pathHead (path : String) : String := (pathSegments path).headD ""

theorem undotted_of_mem_segmentsOf {l segment : List Char} (h : segment ∈ segmentsOf l) :
    '.' ∉ segment := by
  induction l generalizing segment with
  | nil =>
    rw [List.mem_singleton.1 h]
    exact List.not_mem_nil
  | cons c rest ih =>
    rw [segmentsOf] at h
    by_cases hdot : c = '.'
    · rw [if_pos hdot] at h
      rcases List.mem_cons.1 h with rfl | h
      · exact List.not_mem_nil
      · exact ih h
    · rw [if_neg hdot] at h
      cases hrest : segmentsOf rest with
      | nil => exact absurd hrest (segmentsOf_ne_nil rest)
      | cons first more =>
        rw [hrest] at h ih
        rcases List.mem_cons.1 h with rfl | h
        · exact List.not_mem_cons_of_ne_of_not_mem (Ne.symm hdot) (ih List.mem_cons_self)
        · exact ih (List.mem_cons_of_mem first h)

theorem pathSegments_eq_cons (path : String) : ∃ rest, pathSegments path = pathHead path :: rest := by
  rw [pathHead]
  cases hsegments : pathSegments path with
  | nil => exact absurd hsegments (pathSegments_ne_nil path)
  | cons first rest => exact ⟨rest, rfl⟩

theorem undotted_pathHead (path : String) : '.' ∉ (pathHead path).toList := by
  obtain ⟨rest, hsegments⟩ := pathSegments_eq_cons path
  have hmem : pathHead path ∈ pathSegments path := by
    rw [hsegments]
    exact List.mem_cons_self
  obtain ⟨segment, hsegment, heq⟩ := List.mem_map.1 hmem
  rw [← heq, String.toList_ofList]
  exact undotted_of_mem_segmentsOf hsegment

theorem pathHead_undotted {path : String} (h : '.' ∉ path.toList) : pathHead path = path := by
  rw [pathHead, pathSegments_undotted h]
  rfl

namespace Document

variable {d e : Document} {path : String} {paths : List String}

theorem follow?_congr {key : String} (h : d.get? key = e.get? key) (rest : List String) :
    d.follow? (key :: rest) = e.follow? (key :: rest) := by
  cases rest with
  | nil => exact h
  | cons next more =>
    rw [follow?, follow?, h]
    · exact List.cons_ne_nil next more
    · exact List.cons_ne_nil next more

/-- What stands at a path depends on the field that the path begins with. -/
theorem at?_congr (h : d.get? (pathHead path) = e.get? (pathHead path)) : d.at? path = e.at? path := by
  obtain ⟨rest, hsegments⟩ := pathSegments_eq_cons path
  rw [at?, at?, hsegments, follow?_congr h rest]

theorem at?_of_get?_eq_none (h : d.get? (pathHead path) = none) : d.at? path = none := by
  rw [at?_congr (e := []) h, at?]
  split
  · rfl
  · obtain ⟨rest, hsegments⟩ := pathSegments_eq_cons path
    rw [hsegments]
    cases rest <;> rfl

theorem at?_pick (hblank : "" ∉ paths) (d : Document) (path : String) :
    (d.pick paths).at? path = if pathHead path ∈ paths then d.at? path else none := by
  have hget := get?_pick d paths (pathHead path)
  split
  · rename_i hhead
    rw [if_pos hhead, at?_undotted (fun h => hblank (h ▸ hhead)) (undotted_pathHead path)] at hget
    exact at?_congr hget
  · rename_i hhead
    rw [if_neg hhead] at hget
    exact at?_of_get?_eq_none hget

end Document

namespace QueryOption

variable {names : List String} {d : Document} {path : String}

/-- The field that a path begins with is shown as it is. -/
def ShowsHead (names : List String) (path : String) : Prop :=
  ¬NamesField names ∨ pathHead path ∈ shownPaths names

theorem blank_not_mem_shownPaths : "" ∉ shownPaths names := by
  rw [mem_shownPaths]
  rintro (h | h)
  · exact absurd h (by decide)
  · exact h.2 rfl

theorem at?_project_of_showsHead (h : ShowsHead names path) (d : Document) :
    (d.project (projection names)).at? path = d.at? path := by
  by_cases hnames : NamesField names
  · rw [project_of_namesField hnames, at?_pick blank_not_mem_shownPaths,
      if_pos (h.resolve_left (not_not_intro hnames))]
  · rw [project_of_not_namesField hnames]

theorem at?_project_of_not_showsHead (h : ¬ShowsHead names path) (d : Document) :
    (d.project (projection names)).at? path = none := by
  obtain ⟨hnames, hhead⟩ := not_or.1 h
  rw [project_of_namesField (not_not.1 hnames), at?_pick blank_not_mem_shownPaths, if_neg hhead]

/-- Every name that leads somewhere in a document begins with a field that is shown. -/
def Keeps (names : List String) (d : Document) : Prop :=
  ∀ path ∈ names, d.at? path ≠ none → ShowsHead names path

/-- Names of fields keep all documents in place. -/
theorem keeps_of_undotted (h : ∀ name ∈ names, '.' ∉ name.toList) (d : Document) :
    Keeps names d := by
  intro path hpath hd
  refine .inr (mem_shownPaths.2 (.inr ?_))
  rw [pathHead_undotted (h path hpath)]
  refine ⟨hpath, ?_⟩
  rintro rfl
  exact hd rfl

theorem at?_project_of_keeps (h : Keeps names d) (hpath : path ∈ names) :
    (d.project (projection names)).at? path = d.at? path := by
  by_cases hd : d.at? path = none
  · by_cases hhead : ShowsHead names path
    · exact at?_project_of_showsHead hhead d
    · rw [at?_project_of_not_showsHead hhead, hd]
  · exact at?_project_of_showsHead (h path hpath hd) d

/-- Reading at the names gives the same as before if and only if the names keep the document. -/
theorem keeps_iff_at? : Keeps names d ↔
    ∀ path ∈ names, (d.project (projection names)).at? path = d.at? path := by
  refine ⟨fun h path => at?_project_of_keeps h, fun h path hpath hd => ?_⟩
  by_contra hhead
  rw [← h path hpath, at?_project_of_not_showsHead hhead] at hd
  exact hd rfl

theorem keeps_iff_project : Keeps names d ↔
    (d.project (projection names)).project (projection names) = d.project (projection names) := by
  rw [keeps_iff_at?]
  by_cases hnames : NamesField names
  · have hid : ShowsHead names "_id" :=
      .inr (mem_shownPaths.2 (.inl (pathHead_undotted (by decide))))
    -- the second projection picks from what is shown what the first one picked from the document
    rw [project_of_namesField hnames (d.project _)]
    nth_rewrite 3 [project_of_namesField hnames]
    rw [pick_eq_pick_iff]
    constructor
    · intro h path hpath
      rcases mem_shownPaths.1 hpath with rfl | ⟨hpath, -⟩
      · exact at?_project_of_showsHead hid d
      · exact h path hpath
    · intro h path hpath
      by_cases hblank : path = ""
      · rw [hblank]
        rfl
      · exact h path (mem_shownPaths.2 (.inr ⟨hpath, hblank⟩))
  · simp only [project_of_not_namesField hnames, implies_true]

variable [Regex.Engine]

/-- Filters, sorts and decoders that read nothing but some names, on documents as they are after the
projection to these names. -/
structure Unnoticed (names : List String) : Prop where
  matchesFilter : ∀ d, Keeps names d → ∀ (rule : CaseRule) (filter : Document),
    Filter.entriesWithin names filter = true →
    (d.project (projection names)).matchesFilter rule filter = d.matchesFilter rule filter
  sortStably : ∀ rows : List Document, (∀ d ∈ rows, Keeps names d) →
    ∀ (rule : CaseRule) (specification : Document), (∀ path ∈ specification.keys, path ∈ names) →
    sortStably (compareBy rule specification) (rows.map fun d => d.project (projection names)) =
      (sortStably (compareBy rule specification) rows).map fun d => d.project (projection names)
  decode : ∀ d, Keeps names d → ∀ {α : Type} (decode : Document → Except String α),
    (∀ e e', (∀ path ∈ names, e.at? path = e'.at? path) → decode e = decode e') →
    decode (d.project (projection names)) = decode d

theorem unnoticed (names : List String) : Unnoticed names where
  matchesFilter d h rule filter hwithin :=
    Filter.matchEntries_congr rule (keeps_iff_at?.1 h) filter hwithin
  sortStably rows h rule specification hspecification := by
    refine sortStably_map fun d hd e he => compareBy_congr rule ?_ ?_
    · exact fun path hpath => keeps_iff_at?.1 (h d hd) path (hspecification path hpath)
    · exact fun path hpath => keeps_iff_at?.1 (h e he) path (hspecification path hpath)
  decode d h _ decode hdecode := hdecode _ _ (keeps_iff_at?.1 h)

/-- What a projection to names shows can be read and shown again as before if and only if each name
that leads somewhere begins with a field that is shown. This holds of names of fields, and wherever
it holds nothing that keeps to the names notices the projection. -/
theorem keeps_iff (names : List String) :
    (∀ d : Document,
      let shown := d.project (projection names)
      (∀ path, ShowsHead names path → shown.at? path = d.at? path) ∧
      (∀ path, ¬ShowsHead names path → shown.at? path = none) ∧
      ((∀ path ∈ names, shown.at? path = d.at? path) ↔ Keeps names d) ∧
      (shown.project (projection names) = shown ↔ Keeps names d)) ∧
    ((∀ name ∈ names, '.' ∉ name.toList) → ∀ d, Keeps names d) ∧
    Unnoticed names :=
  ⟨fun d => ⟨fun _ hhead => at?_project_of_showsHead hhead d,
    fun _ hhead => at?_project_of_not_showsHead hhead d, keeps_iff_at?.symm,
    keeps_iff_project.symm⟩, keeps_of_undotted, unnoticed names⟩

end QueryOption

open scoped Regex

namespace QueryOption

/-- A value inside another one keeps its path where the outer one is shown. -/
theorem nested_kept :
    let d : Document := [("_id", .int32 1), ("a", .document [("b", .int32 2)])]
    (d.project (projection ["a", "a.b"])).at? "a.b" = d.at? "a.b" := by
  intro d
  obtain ⟨hkept, -⟩ := (keeps_iff ["a", "a.b"]).1 d
  exact hkept "a.b" (.inr (by decide))

/-- A value inside another one is lost to its own path, and altogether the second time. -/
theorem nested_not_kept :
    let d : Document := [("_id", .int32 1), ("a", .document [("b", .int32 2)])]
    let shown := d.project (projection ["a.b"])
    d.at? "a.b" = some (.int32 2) ∧ shown.at? "a.b" = none ∧
      (shown.project (projection ["a.b"])).equal shown = false := by
  refine ⟨rfl, rfl, ?_⟩
  decide

end QueryOption

end DocStore
