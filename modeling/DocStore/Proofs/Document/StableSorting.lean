import DocStore.Proofs.Document.Ordering
import Mathlib.Data.List.Perm.Basic
/-!
Stable sorting. Where the comparison is consistent, sorting puts things in order and leaves those that
come out equal in the order in which they were given.
-/
namespace DocStore

section StableSorting

variable {compare : α → α → Ordering} {earlier : α → α → Prop} {x y z : α} {xs sorted : List α}

/-- Strictly in order, or equal and given in this order. -/
def Precedes (compare : α → α → Ordering) (earlier : α → α → Prop) (x y : α) : Prop :=
  compare x y = .lt ∨ compare x y = .eq ∧ earlier x y

theorem insertBackwards_perm (x : α) (sorted : List α) :
    (insertBackwards compare x sorted).Perm (x :: sorted) := by
  induction sorted with
  | nil => exact .refl _
  | cons y rest ih =>
    rw [insertBackwards]
    split
    · exact (ih.cons y).trans (.swap x y rest)
    · exact .refl _

theorem foldl_insertBackwards_perm (xs sorted : List α) :
    (xs.foldl (fun sorted x => insertBackwards compare x sorted) sorted).Perm (xs ++ sorted) := by
  induction xs generalizing sorted with
  | nil => exact .refl _
  | cons x rest ih =>
    have hinsert : (rest ++ insertBackwards compare x sorted).Perm (rest ++ x :: sorted) :=
      (insertBackwards_perm x sorted).append_left rest
    exact (ih _).trans (hinsert.trans List.perm_middle)

theorem sortStably_perm (xs : List α) : (sortStably compare xs).Perm xs := by
  have hsorted : (xs.foldl (fun sorted x => insertBackwards compare x sorted) []).Perm (xs ++ []) :=
    foldl_insertBackwards_perm xs []
  rw [List.append_nil] at hsorted
  exact (List.reverse_perm _).trans hsorted

/-- Sorting by a comparison that finds nothing in order leaves all in place. -/
theorem sortStably_of_forall_ne_lt (h : ∀ x y, compare x y ≠ .lt) (xs : List α) :
    sortStably compare xs = xs := by
  have hinsert (x : α) (sorted : List α) : insertBackwards compare x sorted = x :: sorted := by
    cases sorted with
    | nil => rfl
    | cons y rest => rw [insertBackwards, if_neg (h x y)]
  simp only [sortStably, hinsert]
  rw [List.foldl_flip_cons_eq_append, List.append_nil, List.reverse_reverse, List.map_id']

theorem Consistent.precedes_of_not_lt (h : Consistent compare xs) (hx : x ∈ xs) (hy : y ∈ xs)
    (hearlier : earlier y x) (hlt : compare x y ≠ .lt) : Precedes compare earlier y x := by
  have hswap := h.swap y hy x hx
  cases hcompare : compare x y with
  | lt => exact absurd hcompare hlt
  | eq => exact .inr ⟨by rw [hswap, hcompare]; rfl, hearlier⟩
  | gt => exact .inl (by rw [hswap, hcompare]; rfl)

theorem Precedes.ne_gt (h : Precedes compare earlier x y) : compare x y ≠ .gt := by
  rcases h with h | ⟨h, -⟩ <;> rw [h] <;> decide

theorem Consistent.precedes_trans (h : Consistent compare xs) (hx : x ∈ xs) (hy : y ∈ xs) (hz : z ∈ xs)
    (hxy : Precedes compare earlier x y) (hyz : Precedes compare earlier y z)
    (hearlier : earlier x z) : Precedes compare earlier x z := by
  have hne := h.trans x hx y hy z hz hxy.ne_gt hyz.ne_gt
  cases hcompare : compare x z with
  | lt => exact .inl hcompare
  | eq => exact .inr ⟨hcompare, hearlier⟩
  | gt => exact absurd hcompare hne

/-- What is inserted comes after all that it passes by, and was given after all others. -/
theorem Consistent.pairwise_insertBackwards (h : Consistent compare xs) (hx : x ∈ xs)
    (hsub : ∀ y ∈ sorted, y ∈ xs) (hearlier : ∀ y ∈ sorted, earlier y x)
    (hsorted : sorted.Pairwise fun y z => Precedes compare earlier z y) :
    (insertBackwards compare x sorted).Pairwise fun y z => Precedes compare earlier z y := by
  induction sorted with
  | nil => exact List.pairwise_singleton _ _
  | cons y rest ih =>
    obtain ⟨hy, hrest⟩ := List.forall_mem_cons.1 hsub
    obtain ⟨hyx, hrestx⟩ := List.forall_mem_cons.1 hearlier
    obtain ⟨hbefore, hpairs⟩ := List.pairwise_cons.1 hsorted
    rw [insertBackwards]
    split
    · rename_i hlt
      refine List.pairwise_cons.2 ⟨fun z hz => ?_, ih hrest hrestx hpairs⟩
      rcases mem_insertBackwards.1 hz with rfl | hz
      · exact .inl hlt
      · exact hbefore z hz
    · rename_i hlt
      have hprecedes := h.precedes_of_not_lt hx hy hyx hlt
      refine List.pairwise_cons.2 ⟨fun z hz => ?_, hsorted⟩
      rcases List.mem_cons.1 hz with rfl | hz
      · exact hprecedes
      · exact h.precedes_trans (hrest z hz) hy hx (hbefore z hz) hprecedes (hrestx z hz)

/-- What has been sorted so far was given before all that is left to sort. -/
theorem Consistent.pairwise_foldl_insertBackwards (h : Consistent compare xs) {rest : List α}
    (hrest : ∀ x ∈ rest, x ∈ xs) (hsub : ∀ y ∈ sorted, y ∈ xs) (hpairs : rest.Pairwise earlier)
    (hbefore : ∀ y ∈ sorted, ∀ x ∈ rest, earlier y x)
    (hsorted : sorted.Pairwise fun y z => Precedes compare earlier z y) :
    (rest.foldl (fun sorted x => insertBackwards compare x sorted) sorted).Pairwise
      fun y z => Precedes compare earlier z y := by
  induction rest generalizing sorted with
  | nil => exact hsorted
  | cons x rest ih =>
    obtain ⟨hx, hrest⟩ := List.forall_mem_cons.1 hrest
    obtain ⟨hfirst, hpairs⟩ := List.pairwise_cons.1 hpairs
    apply ih hrest
    · intro y hy
      rcases mem_insertBackwards.1 hy with rfl | hy
      · exact hx
      · exact hsub y hy
    · exact hpairs
    · intro y hy z hz
      rcases mem_insertBackwards.1 hy with rfl | hy
      · exact hfirst z hz
      · exact hbefore y hy z (List.mem_cons_of_mem x hz)
    · exact h.pairwise_insertBackwards hx hsub
        (fun y hy => hbefore y hy x List.mem_cons_self) hsorted

/-- Sorting puts things that can be put in order in order, and is stable. -/
theorem Consistent.pairwise_sortStably (h : Consistent compare xs) (hearlier : xs.Pairwise earlier) :
    (sortStably compare xs).Pairwise (Precedes compare earlier) := by
  have hsorted : (xs.foldl (fun sorted x => insertBackwards compare x sorted) []).Pairwise
      fun y z => Precedes compare earlier z y :=
    h.pairwise_foldl_insertBackwards (fun _ hx => hx) nofun hearlier nofun .nil
  exact List.pairwise_reverse.2 hsorted

end StableSorting

end DocStore
