import DocStore.Query.Option
import Mathlib.Data.List.Induction
/-!
Options that overwrite one another. A search is told what the last option of each kind asks for, and
nothing of the earlier ones, but for one case: a number of rows that is not positive sets no limit, and
leaves the limit standing that an earlier number has set.
-/
namespace DocStore

namespace QueryOption

inductive Kind where
  | firstRow
  | maxRows
  | fields
  | sort
  | caseSensitive
deriving DecidableEq

def kind : QueryOption → Kind
  | firstRow => .firstRow
  | maxRows _ => .maxRows
  | fields _ => .fields
  | sort _ _ => .sort
  | caseSensitive _ => .caseSensitive

def isOf (k : Kind) (o : QueryOption) : Bool := o.kind = k

def lastOf (k : Kind) (options : List QueryOption) : Option QueryOption :=
  (options.filter (isOf k)).getLast?

/-- The options that no later one of their kind follows. -/
def lastOfEachKind : List QueryOption → List QueryOption
  | [] => []
  | o :: rest => if rest.any (isOf o.kind) then lastOfEachKind rest else o :: lastOfEachKind rest

/-- What is asked for last on a matter, on which not every option asks for something. -/
def latest (asked : QueryOption → Option β) (options : List QueryOption) : Option β :=
  (options.filterMap asked).getLast?

/-- Only options of one kind ask for something on the matter. -/
def IsAbout (k : Kind) (asked : QueryOption → Option β) : Prop := ∀ o, (asked o).isSome → o.kind = k

variable {k : Kind} {o : QueryOption} {options : List QueryOption} {asked : QueryOption → Option β}

section Lasts

theorem isOf_iff : isOf k o = true ↔ o.kind = k := decide_eq_true_iff

theorem lastOf_concat (k : Kind) (options : List QueryOption) (o : QueryOption) :
    lastOf k (options ++ [o]) = if o.kind = k then some o else lastOf k options := by
  by_cases ho : o.kind = k <;> simp [lastOf, isOf, ho]

theorem latest_concat (asked : QueryOption → Option β) (options : List QueryOption)
    (o : QueryOption) : latest asked (options ++ [o]) = (asked o).or (latest asked options) := by
  cases ho : asked o <;> simp [latest, ho]

theorem lastOf_eq_none : lastOf k options = none ↔ ∀ o ∈ options, o.kind ≠ k := by
  simp [lastOf, isOf]

theorem latest_eq_none : latest asked options = none ↔ ∀ o ∈ options, asked o = none := by
  rw [latest, List.getLast?_eq_none_iff, List.filterMap_eq_nil_iff]

theorem kind_of_lastOf (h : lastOf k options = some o) : o.kind = k :=
  isOf_iff.1 (List.mem_filter.1 (List.mem_of_getLast? h)).2

theorem eq_nil_iff_lastOf : options = [] ↔ ∀ k, lastOf k options = none := by
  simp only [lastOf_eq_none]
  constructor
  · rintro rfl k o ho
    cases ho
  · intro h
    exact List.eq_nil_iff_forall_not_mem.2 fun o ho => h o.kind o ho rfl

theorem IsAbout.eq_none (h : IsAbout k asked) (ho : o.kind ≠ k) : asked o = none :=
  Option.not_isSome_iff_eq_none.1 fun hsome => ho (h o hsome)

/-- The last option of a kind is followed if it asks for anything. -/
theorem IsAbout.latest_of_asked (h : IsAbout k asked) (hlast : lastOf k options = some o) {b : β}
    (ho : asked o = some b) : latest asked options = some b := by
  induction options using List.reverseRecOn with
  | nil => cases hlast
  | append_singleton options x ih =>
    rw [lastOf_concat] at hlast
    rw [latest_concat]
    by_cases hx : x.kind = k
    · rw [if_pos hx] at hlast
      cases hlast
      rw [ho, Option.some_or]
    · rw [if_neg hx] at hlast
      rw [h.eq_none hx, Option.none_or, ih hlast]

/-- If every option of a kind asks for something, then only the last one counts. -/
theorem IsAbout.latest_eq (h : IsAbout k asked) (hall : ∀ o, o.kind = k → (asked o).isSome)
    (options : List QueryOption) : latest asked options = (lastOf k options).bind asked := by
  cases hlast : lastOf k options with
  | none =>
    rw [lastOf_eq_none] at hlast
    exact latest_eq_none.2 fun o ho => h.eq_none (hlast o ho)
  | some o =>
    obtain ⟨b, hb⟩ := Option.isSome_iff_exists.1 (hall o (kind_of_lastOf hlast))
    rw [h.latest_of_asked hlast hb, Option.bind_some, hb]

theorem filter_lastOfEachKind (k : Kind) (options : List QueryOption) :
    (lastOfEachKind options).filter (isOf k) = (lastOf k options).toList := by
  induction options with
  | nil => rfl
  | cons o rest ih =>
    rw [lastOfEachKind]
    by_cases hlater : rest.any (isOf o.kind)
    · rw [if_pos hlater, ih]
      obtain ⟨x, hx, hkind⟩ := List.any_eq_true.1 hlater
      by_cases ho : o.kind = k
      · -- a later option of this kind is the last one with or without the first one
        have hne : rest.filter (isOf k) ≠ [] :=
          List.ne_nil_of_mem (List.mem_filter.2 ⟨hx, ho ▸ hkind⟩)
        rw [lastOf, lastOf, List.filter_cons_of_pos (isOf_iff.2 ho), List.getLast?_cons_of_ne_nil hne]
      · rw [lastOf, lastOf, List.filter_cons_of_neg (mt isOf_iff.1 ho)]
    · rw [if_neg hlater, lastOf]
      by_cases ho : o.kind = k
      · have hnone : lastOf k rest = none :=
          lastOf_eq_none.2 fun x hx hkind =>
            hlater (List.any_eq_true.2 ⟨x, hx, isOf_iff.2 (hkind.trans ho.symm)⟩)
        rw [List.filter_cons_of_pos (isOf_iff.2 ho), ih, hnone,
          List.filter_cons_of_pos (isOf_iff.2 ho), List.getLast?_cons, ← lastOf, hnone]
        rfl
      · rw [List.filter_cons_of_neg (mt isOf_iff.1 ho), ih, lastOf,
          List.filter_cons_of_neg (mt isOf_iff.1 ho)]

theorem lastOf_lastOfEachKind (k : Kind) (options : List QueryOption) :
    lastOf k (lastOfEachKind options) = lastOf k options := by
  rw [lastOf, filter_lastOfEachKind]
  cases lastOf k options <;> rfl

/-- Where one option of the kind is left, it is followed, also if it asks for nothing. -/
theorem IsAbout.latest_lastOfEachKind (h : IsAbout k asked) (options : List QueryOption) :
    latest asked (lastOfEachKind options) = (lastOf k options).bind asked := by
  have hasked : asked = fun o => if isOf k o then asked o else none := by
    funext o
    by_cases ho : o.kind = k
    · rw [if_pos (isOf_iff.2 ho)]
    · rw [if_neg (mt isOf_iff.1 ho), h.eq_none ho]
  have hfilter : (lastOfEachKind options).filterMap asked =
      ((lastOfEachKind options).filter (isOf k)).filterMap asked := by
    rw [List.filterMap_filter, ← hasked]
  rw [latest, hfilter, filter_lastOfEachKind]
  cases lastOf k options with
  | none => rfl
  | some o => cases ho : asked o <;> simp [ho]

end Lasts

/-! What an option asks for on each of the matters of a search. -/

def limit? : QueryOption → Option Int64
  | maxRows n => if 0 < n then some n else none
  | _ => none

def projection? : QueryOption → Option Document
  | fields names => some (projection names)
  | _ => none

def sort? : QueryOption → Option Document
  | sort field direction => some [(field, .int32 direction.sign)]
  | _ => none

def collation? : QueryOption → Option Collation
  | caseSensitive sensitive => some (collation sensitive)
  | _ => none

theorem isAbout_limit? : IsAbout .maxRows limit? := fun o h => by cases o <;> first | rfl | cases h

theorem isAbout_projection? : IsAbout .fields projection? := fun o h => by
  cases o <;> first | rfl | cases h

theorem isAbout_sort? : IsAbout .sort sort? := fun o h => by cases o <;> first | rfl | cases h

theorem isAbout_collation? : IsAbout .caseSensitive collation? := fun o h => by
  cases o <;> first | rfl | cases h

theorem latest_projection? (options : List QueryOption) :
    latest projection? options = (lastOf .fields options).bind projection? :=
  isAbout_projection?.latest_eq (fun o h => by cases o <;> first | rfl | cases h) options

theorem latest_sort? (options : List QueryOption) :
    latest sort? options = (lastOf .sort options).bind sort? :=
  isAbout_sort?.latest_eq (fun o h => by cases o <;> first | rfl | cases h) options

theorem latest_collation? (options : List QueryOption) :
    latest collation? options = (lastOf .caseSensitive options).bind collation? :=
  isAbout_collation?.latest_eq (fun o h => by cases o <;> first | rfl | cases h) options

section Searches

theorem foldl_apply (options : List QueryOption) :
    options.foldl apply {} =
      { limit := latest limit? options
        projection := latest projection? options
        sort := latest sort? options
        collation := latest collation? options } := by
  induction options using List.reverseRecOn with
  | nil => rfl
  | append_singleton options o ih =>
    simp only [List.foldl_append, List.foldl_cons, List.foldl_nil, ih, latest_concat]
    cases o with
    | maxRows n =>
      rw [apply, limit?]
      split <;> rfl
    | firstRow | fields | sort | caseSensitive => rfl

theorem foldl_applyOne (options : List QueryOption) :
    options.foldl applyOne {} =
      { projection := latest projection? options, collation := latest collation? options } := by
  induction options using List.reverseRecOn with
  | nil => rfl
  | append_singleton options o ih =>
    simp only [List.foldl_append, List.foldl_cons, List.foldl_nil, ih, latest_concat]
    cases o <;> rfl

theorem any_isFirstRow : options.any isFirstRow = true ↔ .firstRow ∈ options := by
  rw [List.any_eq_true]
  constructor
  · rintro ⟨o, ho, hfirst⟩
    cases o <;> first | exact ho | cases hfirst
  · exact fun h => ⟨.firstRow, h, rfl⟩

theorem mem_firstRow_iff : .firstRow ∈ options ↔ lastOf .firstRow options ≠ none := by
  rw [ne_eq, lastOf_eq_none]
  constructor
  · exact fun h hnone => hnone _ h rfl
  · intro h
    push Not at h
    obtain ⟨o, ho, hkind⟩ := h
    cases o <;> first | exact ho | cases hkind

/-- A search is told what is asked for last on each matter; the first row alone is one row. -/
theorem toFindOptions_eq (h : options ≠ []) :
    toFindOptions options = some
      { limit := if .firstRow ∈ options then some 1 else latest limit? options
        projection := latest projection? options
        sort := latest sort? options
        collation := latest collation? options } := by
  rw [toFindOptions, if_neg (by simpa using h), foldl_apply]
  by_cases hfirst : .firstRow ∈ options
  · simp only [if_pos hfirst, if_pos (any_isFirstRow.2 hfirst)]
  · simp only [if_neg hfirst, if_neg (mt any_isFirstRow.1 hfirst)]

theorem toFindOneOptions_eq (h : options ≠ []) :
    toFindOneOptions options = some
      { projection := latest projection? options, collation := latest collation? options } := by
  rw [toFindOneOptions, if_neg (by simpa using h), foldl_applyOne]

theorem eq_nil_congr {others : List QueryOption} (h : ∀ k, lastOf k others = lastOf k options) :
    others = [] ↔ options = [] := by
  rw [eq_nil_iff_lastOf, eq_nil_iff_lastOf]
  simp only [h]

/-- A search for one document depends on the last option of each kind alone. -/
theorem toFindOneOptions_of_lastOf {others : List QueryOption}
    (h : ∀ k, lastOf k others = lastOf k options) :
    toFindOneOptions others = toFindOneOptions options := by
  by_cases hne : options = []
  · rw [hne, (eq_nil_congr h).2 hne]
  · rw [toFindOneOptions_eq hne, toFindOneOptions_eq (mt (eq_nil_congr h).1 hne),
      latest_projection?, latest_projection?, latest_collation?, latest_collation?, h, h]

/-- A search for all documents depends on the limit besides, unless the first row alone is wanted. -/
theorem toFindOptions_of_lastOf {others : List QueryOption}
    (h : ∀ k, lastOf k others = lastOf k options) :
    toFindOptions others = toFindOptions options ↔
      .firstRow ∈ options ∨ latest limit? others = latest limit? options := by
  have hfirst : .firstRow ∈ others ↔ .firstRow ∈ options := by
    rw [mem_firstRow_iff, mem_firstRow_iff, h]
  by_cases hne : options = []
  · simp [hne, (eq_nil_congr h).2 hne]
  · rw [toFindOptions_eq hne, toFindOptions_eq (mt (eq_nil_congr h).1 hne),
      latest_projection?, latest_projection?, latest_sort?, latest_sort?,
      latest_collation?, latest_collation?, h, h, h]
    by_cases hmem : .firstRow ∈ options
    · simp [hmem, hfirst]
    · simp [hmem, hfirst]

/-- The number of rows asked for last sets a limit, or none was set before; or the first row alone is
wanted. -/
def LimitStands (options : List QueryOption) : Prop :=
  .firstRow ∈ options ∨ (∃ n, lastOf .maxRows options = some (.maxRows n) ∧ 0 < n) ∨
    ∀ n, .maxRows n ∈ options → ¬0 < n

theorem limit?_eq_some {n : Int64} : limit? o = some n ↔ o = .maxRows n ∧ 0 < n := by
  cases o with
  | maxRows m =>
    rw [limit?]
    split
    · rename_i hm
      simp only [Option.some.injEq, maxRows.injEq]
      exact ⟨fun h => ⟨h, h ▸ hm⟩, And.left⟩
    · rename_i hm
      simp only [reduceCtorEq, maxRows.injEq, false_iff]
      rintro ⟨rfl, hn⟩
      exact hm hn
  | firstRow | fields | sort | caseSensitive => simp [limit?]

theorem latest_limit?_eq_none :
    latest limit? options = none ↔ ∀ n, .maxRows n ∈ options → ¬0 < n := by
  rw [latest_eq_none]
  constructor
  · intro h n hmem hn
    have hsome := limit?_eq_some.2 ⟨rfl, hn⟩
    rw [h _ hmem] at hsome
    cases hsome
  · intro h o ho
    refine Option.eq_none_iff_forall_ne_some.2 fun n hn => ?_
    obtain ⟨rfl, hpos⟩ := limit?_eq_some.1 hn
    exact h n ho hpos

theorem limitStands_iff : LimitStands options ↔
    .firstRow ∈ options ∨ (lastOf .maxRows options).bind limit? = latest limit? options := by
  refine or_congr_right ?_
  rw [← latest_limit?_eq_none]
  cases hlast : (lastOf .maxRows options).bind limit? with
  | some n =>
    obtain ⟨o, ho, hn⟩ := Option.bind_eq_some_iff.1 hlast
    obtain ⟨rfl, hpos⟩ := limit?_eq_some.1 hn
    exact iff_of_true (.inl ⟨n, ho, hpos⟩) (isAbout_limit?.latest_of_asked ho hn).symm
  | none =>
    rw [eq_comm (a := none)]
    refine or_iff_right ?_
    rintro ⟨n, ho, hpos⟩
    rw [ho, Option.bind_some, limit?_eq_some.2 ⟨rfl, hpos⟩] at hlast
    cases hlast

/-- Of each kind of options only the last one counts, whatever it says, but for the limit of a search
for all documents, where a number of rows that is not positive passes over to an earlier one. -/
theorem lastOptions_suffice_iff (options : List QueryOption) :
    (toFindOptions (lastOfEachKind options) = toFindOptions options ↔ LimitStands options) ∧
    toFindOneOptions (lastOfEachKind options) = toFindOneOptions options ∧
    (∀ others, (∀ k, lastOf k others = lastOf k options) →
      toFindOneOptions others = toFindOneOptions options ∧
      (LimitStands options → LimitStands others → toFindOptions others = toFindOptions options)) ∧
    (toFindOptions options).map FindOptions.limit = (if options = [] then none
      else some (if .firstRow ∈ options then some 1 else latest limit? options)) ∧
    (toFindOptions options).map FindOptions.projection =
      (toFindOneOptions options).map FindOneOptions.projection ∧
    (toFindOptions options).map FindOptions.collation =
      (toFindOneOptions options).map FindOneOptions.collation := by
  have hlasts (k : Kind) := lastOf_lastOfEachKind k options
  refine ⟨?_, toFindOneOptions_of_lastOf hlasts, fun others h => ⟨toFindOneOptions_of_lastOf h, ?_⟩,
    ?_⟩
  · rw [toFindOptions_of_lastOf hlasts, isAbout_limit?.latest_lastOfEachKind, limitStands_iff]
  · rw [limitStands_iff, limitStands_iff, toFindOptions_of_lastOf h, mem_firstRow_iff,
      mem_firstRow_iff, h, h]
    rintro (hfirst | hlimit) (hfirst' | hlimit')
    · exact .inl hfirst
    · exact .inl hfirst
    · exact .inl hfirst'
    · exact .inr (hlimit'.symm.trans hlimit)
  · by_cases hne : options = []
    · rw [hne]
      exact ⟨rfl, rfl, rfl⟩
    · rw [toFindOptions_eq hne, toFindOneOptions_eq hne, if_neg hne]
      exact ⟨rfl, rfl, rfl⟩

/-- The options that are overwritten may say anything. -/
theorem lastOptions_suffice_iff_fields :
    let options := [.maxRows 0, .fields ["a"], .maxRows 5, .sort "a" .ascending, .fields ["b"]]
    let others := [.fields ["b"], .sort "a" .ascending, .maxRows 5]
    (∀ k, lastOf k others = lastOf k options) ∧ LimitStands options ∧ LimitStands others ∧
      toFindOptions others = toFindOptions options := by
  intro options others
  have hlasts : ∀ k, lastOf k others = lastOf k options := by
    intro k
    cases k <;> rfl
  have hoptions : LimitStands options := .inr (.inl ⟨5, rfl, by decide⟩)
  have hothers : LimitStands others := .inr (.inl ⟨5, rfl, by decide⟩)
  obtain ⟨-, -, horder, -⟩ := lastOptions_suffice_iff options
  exact ⟨hlasts, hoptions, hothers, (horder others hlasts).2 hoptions hothers⟩

/-- The last number of rows sets no limit, and the limit is the one that an earlier number has set. So
it depends on the order of the earlier ones. -/
theorem earlier_limit_stands :
    let limitOf := fun options => (toFindOptions options).bind FindOptions.limit
    let options := [.maxRows 5, .maxRows 10, .maxRows 0]
    let others := [.maxRows 10, .maxRows 5, .maxRows 0]
    limitOf options = some 10 ∧ limitOf (lastOfEachKind options) = none ∧
      (∀ k, lastOf k others = lastOf k options) ∧ limitOf others = some 5 := by
  intro limitOf options others
  refine ⟨rfl, rfl, fun k => ?_, rfl⟩
  cases k <;> rfl

end Searches

end QueryOption

end DocStore
