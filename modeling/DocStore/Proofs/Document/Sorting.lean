import DocStore.Document.Sort
/-!
Sorting. It keeps what it sorts, and reads what the comparison reads: documents are sorted by what
stands at the paths of the specification, and by nothing else.
-/
namespace DocStore

section Sorting

variable {compare : α → α → Ordering} {x y : α} {xs : List α}

theorem mem_insertBackwards : y ∈ insertBackwards compare x xs ↔ y = x ∨ y ∈ xs := by
  induction xs with
  | nil => rw [insertBackwards, List.mem_cons]
  | cons z rest ih =>
    rw [insertBackwards]
    split
    · rw [List.mem_cons, ih, List.mem_cons, or_left_comm]
    · exact List.mem_cons

theorem mem_foldl_insertBackwards (sorted : List α) :
    y ∈ xs.foldl (fun sorted x => insertBackwards compare x sorted) sorted ↔
      y ∈ sorted ∨ y ∈ xs := by
  induction xs generalizing sorted with
  | nil => exact (or_iff_left List.not_mem_nil).symm
  | cons x rest ih =>
    rw [List.foldl_cons, ih, mem_insertBackwards, List.mem_cons, or_assoc, or_left_comm]

theorem mem_sortStably : y ∈ sortStably compare xs ↔ y ∈ xs := by
  rw [sortStably, List.mem_reverse, mem_foldl_insertBackwards, or_iff_right List.not_mem_nil]

variable {compare' : β → β → Ordering} {f : α → β}

theorem insertBackwards_map (h : ∀ y ∈ xs, compare' (f x) (f y) = compare x y) :
    insertBackwards compare' (f x) (xs.map f) = (insertBackwards compare x xs).map f := by
  induction xs with
  | nil => rfl
  | cons y rest ih =>
    obtain ⟨hy, hrest⟩ := List.forall_mem_cons.1 h
    rw [List.map_cons, insertBackwards, insertBackwards, hy, ih hrest]
    split <;> rfl

/-- Sorting commutes with a function that the comparisons do not see. -/
theorem sortStably_map (h : ∀ x ∈ xs, ∀ y ∈ xs, compare' (f x) (f y) = compare x y) :
    sortStably compare' (xs.map f) = (sortStably compare xs).map f := by
  have hfold (rest sorted : List α) (hsorted : ∀ y ∈ sorted, y ∈ xs) (hrest : ∀ x ∈ rest, x ∈ xs) :
      (rest.map f).foldl (fun sorted x => insertBackwards compare' x sorted) (sorted.map f) =
        (rest.foldl (fun sorted x => insertBackwards compare x sorted) sorted).map f := by
    induction rest generalizing sorted with
    | nil => rfl
    | cons x rest ih =>
      obtain ⟨hx, hrest⟩ := List.forall_mem_cons.1 hrest
      rw [List.map_cons, List.foldl_cons, List.foldl_cons,
        insertBackwards_map fun y hy => h x hx y (hsorted y hy)]
      refine ih _ (fun y hy => ?_) hrest
      rcases mem_insertBackwards.1 hy with rfl | hy
      · exact hx
      · exact hsorted y hy
  rw [sortStably, sortStably, List.map_reverse]
  exact congrArg List.reverse (hfold xs [] nofun fun x hx => hx)

end Sorting

namespace Document

variable {a b a' b' : Document}

theorem compareFields_congr (rule : CaseRule) {specification : List (String × Value)}
    (ha : ∀ field ∈ specification, a'.at? field.1 = a.at? field.1)
    (hb : ∀ field ∈ specification, b'.at? field.1 = b.at? field.1) :
    compareFields rule a' b' specification = compareFields rule a b specification := by
  induction specification with
  | nil => rfl
  | cons field rest ih =>
    obtain ⟨path, direction⟩ := field
    obtain ⟨hpath, hrest⟩ := List.forall_mem_cons.1 ha
    obtain ⟨hpath', hrest'⟩ := List.forall_mem_cons.1 hb
    rw [compareFields, compareFields, hpath, hpath', ih hrest hrest']

/-- Documents that are the same at the paths of a specification compare in the same way. -/
theorem compareBy_congr (rule : CaseRule) {specification : Document}
    (ha : ∀ path ∈ specification.keys, a'.at? path = a.at? path)
    (hb : ∀ path ∈ specification.keys, b'.at? path = b.at? path) :
    compareBy rule specification a' b' = compareBy rule specification a b := by
  have hkeys : ∀ field ∈ specification.take maxSortFields, field.1 ∈ specification.keys :=
    fun field hfield => List.mem_map_of_mem (List.mem_of_mem_take hfield)
  exact compareFields_congr rule (fun field hfield => ha _ (hkeys field hfield))
    fun field hfield => hb _ (hkeys field hfield)

end Document

end DocStore
