import DocStore.Proofs.Collection.Selection
import DocStore.Proofs.Document.Projection
import DocStore.Proofs.Document.Sorting
import DocStore.Regex.Default
/-!
Searches for named fields. If one of the names is that of a field besides the identity, what is read
comes from the identities and from what stands at the names in matching documents, and from nothing
else. Otherwise whole documents are read.
-/
namespace DocStore

section

namespace QueryOption

/-- The fields that an option asks for. -/
def names? : QueryOption → Option (List String)
  | fields names => some names
  | _ => none

/-- The fields that options ask for in the end. -/
def restriction? (options : List QueryOption) : Option (List String) :=
  options.foldl (fun earlier o => o.names?.or earlier) none

variable {earlier : Option (List String)} {options : List QueryOption}

theorem projection_foldl_apply {found : FindOptions}
    (h : found.projection = earlier.map projection) :
    (options.foldl apply found).projection =
      (options.foldl (fun earlier o => o.names?.or earlier) earlier).map projection := by
  induction options generalizing found earlier with
  | nil => exact h
  | cons o options ih =>
    refine ih ?_
    cases o with
    | fields names => rfl
    | maxRows n =>
      rw [apply]
      split <;> exact h
    | firstRow | sort | caseSensitive => exact h

theorem projection_foldl_applyOne {found : FindOneOptions}
    (h : found.projection = earlier.map projection) :
    (options.foldl applyOne found).projection =
      (options.foldl (fun earlier o => o.names?.or earlier) earlier).map projection := by
  induction options generalizing found earlier with
  | nil => exact h
  | cons o options ih =>
    refine ih ?_
    cases o with
    | fields names => rfl
    | maxRows | firstRow | sort | caseSensitive => exact h

/-- The projection of a search is that to the fields asked for. -/
theorem projection_toFindOptions (options : List QueryOption) :
    ((toFindOptions options).getD {}).projection = (restriction? options).map projection := by
  have hfold : (options.foldl apply {}).projection = (restriction? options).map projection :=
    projection_foldl_apply rfl
  rw [← hfold, toFindOptions]
  split
  · rename_i hempty
    rw [List.isEmpty_iff.1 hempty]
    rfl
  · rw [Option.getD_some]
    split <;> rfl

theorem projection_toFindOneOptions (options : List QueryOption) :
    ((toFindOneOptions options).getD {}).projection = (restriction? options).map projection := by
  have hfold : (options.foldl applyOne {}).projection = (restriction? options).map projection :=
    projection_foldl_applyOne rfl
  rw [← hfold]
  cases options <;> rfl

end QueryOption

variable [Regex.Engine]

namespace Table

variable {rule : CaseRule} {filter row : Document} {docs rows : List Document}

theorem mem_of_select (h : select rule filter docs = .ok rows) (hrow : row ∈ rows) :
    row ∈ docs ∧ row.matchesFilter rule filter = .ok true := by
  induction docs generalizing rows with
  | nil =>
    cases h
    cases hrow
  | cons x rest ih =>
    obtain ⟨-, hrest⟩ | ⟨more, hx, hrest, rfl⟩ := select_cons_eq_ok h
    · exact (ih hrest hrow).imp_left (List.mem_cons_of_mem x)
    · rcases List.mem_cons.1 hrow with rfl | hmore
      · exact ⟨List.mem_cons_self, hx⟩
      · exact (ih hrest hmore).imp_left (List.mem_cons_of_mem x)

omit [Regex.Engine] in
theorem mem_of_limited {limit : Option Int64} (h : row ∈ limited limit rows) : row ∈ rows := by
  cases limit with
  | none => exact h
  | some n =>
    rw [limited] at h
    split at h
    · exact h
    · exact List.mem_of_mem_take h

/-- A matching document, and what a search shows of it. -/
structure Shown (rule : CaseRule) (filter : Document) (projection : Option Document)
    (docs : List Document) (d row : Document) : Prop where
  stored : d ∈ docs
  matched : d.matchesFilter rule filter = .ok true
  row_eq : row = shape projection d

omit [Regex.Engine] in
theorem mem_of_arrange {options : FindOptions} (h : row ∈ arrange options rows) : row ∈ rows := by
  have hsorted := mem_of_limited h
  split at hsorted
  · exact mem_sortStably.1 hsorted
  · exact hsorted

/-- A search for all documents finds what it shows of matching ones. -/
theorem exists_of_find {options : FindOptions} (h : find filter options docs = .ok rows)
    (hrow : row ∈ rows) :
    ∃ d, Shown (Collation.caseRule options.collation) filter options.projection docs d row := by
  rw [find_eq_arrange] at h
  cases hselect : select (Collation.caseRule options.collation) filter docs <;>
    rw [hselect] at h <;> cases h
  obtain ⟨d, hd, hshape⟩ := List.mem_map.1 hrow
  obtain ⟨hstored, hmatched⟩ := mem_of_select hselect (mem_of_arrange hd)
  exact ⟨d, hstored, hmatched, hshape.symm⟩

theorem exists_of_findOne {options : FindOneOptions}
    (h : findOne filter options docs = .ok (some row)) :
    ∃ d, Shown (Collation.caseRule options.collation) filter options.projection docs d row := by
  rw [findOne_eq] at h
  rcases hsplit : splitFirst (Collation.caseRule options.collation) filter [] docs with
    e | (_ | ⟨before, d, after⟩) <;> rw [hsplit] at h <;> cases h
  obtain ⟨hmatched, passed, -, hdocs⟩ := splitFirst_eq_some hsplit
  exact ⟨d, hdocs ▸ List.mem_append_right _ List.mem_cons_self, hmatched, rfl⟩

end Table

omit [Regex.Engine] in
/-- What is decoded is decoded from one of the documents. -/
theorem exists_of_decodeAll [Decodable α] {rows : List Document} {vs : List α} {v : α}
    (h : decodeAll rows = .ok vs) (hv : v ∈ vs) : ∃ row ∈ rows, Decodable.decode row = .ok v := by
  induction rows generalizing vs with
  | nil =>
    cases h
    cases hv
  | cons row rest ih =>
    rw [decodeAll] at h
    cases hdecode : (Decodable.decode row : Except String α) with
    | error reason => rw [hdecode] at h; cases h
    | ok w =>
      rw [hdecode] at h
      cases hrest : decodeAll (α := α) rest <;> rw [hrest] at h <;> cases h
      rcases List.mem_cons.1 hv with rfl | hv
      · exact ⟨row, List.mem_cons_self, hdecode⟩
      · obtain ⟨row', hmem, hrow'⟩ := ih hrest hv
        exact ⟨row', List.mem_cons_of_mem row hmem, hrow'⟩

namespace Collection

variable {α : Type} [Decodable α] {c : Collection} {criteria : Expression}
  {options : List QueryOption} {s : Host} {v : α}

/-- A value that was decoded from what a projection leaves of a matching document. -/
def Decoded (c : Collection) (criteria : Expression) (s : Host) (projection : Option Document)
    (v : α) : Prop :=
  ∃ rule d row, Table.Shown rule criteria.toFilter projection (c.shown s) d row ∧
    Decodable.decode row = .ok v

theorem decoded_of_query {vs : List α} (h : ((c.query criteria options).on s).1 = .ok vs)
    (hv : v ∈ vs) :
    c.Decoded criteria s ((QueryOption.restriction? options).map QueryOption.projection) v := by
  rw [← QueryOption.projection_toFindOptions]
  obtain ⟨e, -, hquery⟩ | ⟨rows, hfound, -, hquery⟩ := c.iterate_query α criteria options s
  · rw [hquery] at h
    cases h
  · rw [hquery] at h
    cases hdecode : decodeAll (α := α) rows <;> rw [hdecode] at h <;> cases h
    obtain ⟨row, hrow, hv⟩ := exists_of_decodeAll hdecode hv
    obtain ⟨d, hd⟩ := Table.exists_of_find hfound hrow
    exact ⟨_, d, row, hd, hv⟩

theorem decoded_of_load (h : ((c.load criteria options).on s).1 = .ok v) :
    c.Decoded criteria s ((QueryOption.restriction? options).map QueryOption.projection) v := by
  rw [← QueryOption.projection_toFindOneOptions]
  obtain ⟨found, t, hcall, hend⟩ := Action.exists_of_on_bind_eq_ok (Prod.ext h rfl)
  rw [Host.findOne_eq_issue] at hcall
  obtain ⟨name, fresh, reply, docs, u, t', hrun, hreply⟩ := run_of_call_on hcall
  rw [Command.run_findOne] at hrun
  cases hreply
  replace hend := congrArg Prod.fst hend
  cases hrow : reply.document with
  | none =>
    rw [hrow] at hend
    cases hend
  | some row =>
    rw [hrow] at hend
    dsimp only at hend
    cases hdecode : (Decodable.decode row : Except String α) <;> rw [hdecode] at hend <;> cases hend
    cases hfind : Table.findOne criteria.toFilter ((QueryOption.toFindOneOptions options).getD {})
      (c.shown s) <;> rw [hfind] at hrun <;> cases hrun
    obtain rfl : _ = some row := hrow
    obtain ⟨d, hd⟩ := Table.exists_of_findOne hfind
    exact ⟨_, d, row, hd, hdecode⟩

end Collection

open QueryOption (projection restriction?)

/-- A value that was decoded from nothing but the identity of a matching document and what stands there
at some names. -/
def Collection.Confined {α : Type} [Decodable α] (c : Collection) (criteria : Expression) (s : Host)
    (names : List String) (v : α) : Prop :=
  ∃ rule d row, d ∈ c.shown s ∧ d.matchesFilter rule criteria.toFilter = .ok true ∧
    (∀ field ∈ row, (field.1 = "_id" ∨ field.1 ∈ names) ∧ d.at? field.1 = some field.2) ∧
    Decodable.decode row = .ok v

/-- What a projection to some names, and searches for them, keep from a reader. -/
structure Hides (names : List String) : Prop where
  /-- Documents that are the same at the names and in their identities look the same. -/
  same : ∀ d e : Document, (∀ path ∈ "_id" :: names, d.at? path = e.at? path) →
    d.project (projection names) = e.project (projection names)
  equal : ∀ d e : Document, (∀ path ∈ "_id" :: names, Document.EqualAt d e path) →
    (d.project (projection names)).equal (e.project (projection names)) = true
  query : ∀ {α : Type} [Decodable α] (c : Collection) (criteria : Expression)
    (options : List QueryOption) (s : Host) (vs : List α), restriction? options = some names →
    ((c.query criteria options).on s).1 = .ok vs → ∀ v ∈ vs, c.Confined criteria s names v
  load : ∀ {α : Type} [Decodable α] (c : Collection) (criteria : Expression)
    (options : List QueryOption) (s : Host) (v : α), restriction? options = some names →
    ((c.load criteria options).on s).1 = .ok v → c.Confined criteria s names v

namespace QueryOption

open Document (at? at?_id)

variable {names : List String}

/-- What a search for some names decodes comes from nothing but them and the identity. -/
theorem confined_of_decoded {α : Type} [Decodable α] {c : Collection} {criteria : Expression}
    {s : Host} {v : α} (hnames : NamesField names)
    (h : c.Decoded criteria s (some (projection names)) v) : c.Confined criteria s names v := by
  obtain ⟨rule, d, row, ⟨hstored, hmatched, rfl⟩, hdecode⟩ := h
  refine ⟨rule, d, _, hstored, hmatched, ?_, hdecode⟩
  rintro ⟨key, w⟩ hfield
  rw [Table.shape, project_of_namesField hnames] at hfield
  obtain ⟨hpath, hw⟩ := Document.mem_pick.1 hfield
  exact ⟨List.mem_cons.1 (mem_of_mem_shownPaths hpath), hw⟩

theorem hides_of_namesField (hnames : NamesField names) : Hides names where
  same d e h := by
    rw [project_of_namesField hnames, project_of_namesField hnames, Document.pick_eq_pick_iff]
    exact fun path hpath => h path (mem_of_mem_shownPaths hpath)
  equal d e h := by
    rw [project_of_namesField hnames, project_of_namesField hnames]
    exact Document.equal_pick fun path hpath => h path (mem_of_mem_shownPaths hpath)
  query c criteria options s vs hoptions hquery v hv := by
    have hdecoded := Collection.decoded_of_query hquery hv
    rw [hoptions] at hdecoded
    exact confined_of_decoded hnames hdecoded
  load c criteria options s v hoptions hload := by
    have hdecoded := Collection.decoded_of_load hload
    rw [hoptions] at hdecoded
    exact confined_of_decoded hnames hdecoded

/-- Naming fields hides all others if and only if one of the names is that of a field besides the
identity. Without such a name nothing is hidden. -/
theorem hides_iff (names : List String) :
    (Hides names ↔ NamesField names) ∧
      (¬NamesField names → ∀ d : Document, d.project (projection names) = d) := by
  refine ⟨⟨fun h => ?_, hides_of_namesField⟩, project_of_not_namesField⟩
  by_contra hnames
  -- the names lead nowhere in a document without an identity, so it should look like the empty one
  have hsame : ∀ path ∈ "_id" :: names, at? [] path = at? [("secret", .null)] path := by
    intro path hpath
    rcases List.mem_cons.1 hpath with rfl | hpath
    · rw [at?_id, at?_id]
      rfl
    · by_cases hblank : path = ""
      · rw [hblank]
        rfl
      · have hid : path = "_id" := by_contra fun hid => hnames ⟨path, hpath, hblank, hid⟩
        rw [hid, at?_id, at?_id]
        rfl
  have hproject := h.same _ _ hsame
  rw [project_of_not_namesField hnames, project_of_not_namesField hnames] at hproject
  cases hproject

end QueryOption

end

open scoped Regex
open QueryOption (projection restriction?)

namespace QueryOption

open Document (at? at?_id)

theorem hides_name : Hides ["name"] :=
  (hides_iff ["name"]).1.2 ⟨"name", List.mem_cons_self, by decide, by decide⟩

/-- The identity alone is a name, but two documents with one identity do not look the same under it. -/
theorem identity_hides_nothing :
    let d : Document := [("_id", .int32 1), ("secret", .string "a")]
    let e : Document := [("_id", .int32 1), ("secret", .string "b")]
    (∃ name ∈ ["_id"], name ≠ "") ∧ (∀ path ∈ "_id" :: ["_id"], d.at? path = e.at? path) ∧
      (d.project (projection ["_id"])).equal (e.project (projection ["_id"])) = false := by
  intro d e
  refine ⟨⟨"_id", List.mem_cons_self, by decide⟩, ?_, ?_⟩
  · intro path hpath
    have hid : path = "_id" := by simpa using hpath
    rw [hid, at?_id, at?_id]
    rfl
  · decide

end QueryOption

end DocStore
