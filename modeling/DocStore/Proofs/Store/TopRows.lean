import DocStore.Proofs.Document.StableSorting
import DocStore.Proofs.Store.Selection
import DocStore.Regex.Default
import Mathlib.Data.List.FinRange
/-!
The rows of a search. They are the first of the matching documents in the order that is asked for,
documents that come out equal in the order in which they are stored, and no more of them than are asked
for. What a projection leaves of the rows has no part in this.
-/
namespace DocStore

section

namespace Table

open Document (compareBy maxSortFields)

variable {filter : Document} {docs : List Document} {meets : Document → Bool}

/-- How many of the matching documents a search returns. -/
def rowCount (limit : Option Int64) (matching : Nat) : Nat :=
  match limit with
  | some n => if n = 0 then matching else min n.toInt.natAbs matching
  | none => matching

theorem rowCount_le (limit : Option Int64) (matching : Nat) : rowCount limit matching ≤ matching := by
  unfold rowCount
  split
  · split <;> omega
  · exact Nat.le_refl _

theorem limited_eq_take (limit : Option Int64) (rows : List Document) :
    limited limit rows = rows.take (rowCount limit rows.length) := by
  cases limit with
  | none => exact List.take_length.symm
  | some n =>
    rw [limited, rowCount]
    split
    · exact List.take_length.symm
    · exact List.take_eq_take_min

/-- Without a specification no two documents are in an order but that in which they are stored. -/
theorem arrange_eq (options : FindOptions) (rows : List Document) :
    arrange options rows = (sortStably (compareBy (Collation.caseRule options.collation)
      (options.sort.getD [])) rows).take (rowCount options.limit rows.length) := by
  rw [arrange, limited_eq_take]
  cases options.sort with
  | none =>
    have hnone (a b : Document) : compareBy (Collation.caseRule options.collation) [] a b ≠ .lt :=
      Ordering.noConfusion
    rw [Option.getD_none, sortStably_of_forall_ne_lt hnone]
  | some specification =>
    rw [Option.getD_some, (sortStably_perm rows).length_eq]

/-- The places of the rows of a search among the stored documents, in the order of the rows. -/
structure TopRows (order : Document → Document → Ordering) (limit : Option Int64)
    (meets : Document → Bool) (docs : List Document) (places : List (Fin docs.length)) : Prop where
  matched : ∀ p ∈ places, meets docs[p] = true
  nodup : places.Nodup
  length_eq : places.length = rowCount limit (docs.countP meets)
  sorted : places.Pairwise (Precedes (fun p q => order docs[p] docs[q]) (· < ·))
  best : ∀ p ∈ places, ∀ q : Fin docs.length, meets docs[q] = true → q ∉ places →
    Precedes (fun p q => order docs[p] docs[q]) (· < ·) p q

/-- The places of the matching documents. -/
def matchingPlaces (meets : Document → Bool) (docs : List Document) : List (Fin docs.length) :=
  (List.finRange docs.length).filter fun p => meets docs[p]

theorem mem_matchingPlaces {p : Fin docs.length} :
    p ∈ matchingPlaces meets docs ↔ meets docs[p] = true := by
  simp [matchingPlaces]

theorem map_matchingPlaces (meets : Document → Bool) (docs : List Document) :
    (matchingPlaces meets docs).map (fun p => docs[p]) = docs.filter meets := by
  have hmap : (List.finRange docs.length).map (fun p => docs[p]) = docs :=
    List.map_getElem_finRange docs
  conv_rhs => rw [← hmap]
  rw [List.filter_map]
  rfl

theorem consistent_compareBy {rule : CaseRule} {specification : Document}
    (h : ∀ path ∈ Document.keys (specification.take maxSortFields), ∀ d ∈ docs, ∀ s,
      d.at? path ≠ some (.symbol s)) : Consistent (compareBy rule specification) docs := by
  refine consistent_of_transCmp (Document.transCmp_compareFields fun field hfield hmixes => ?_)
  obtain ⟨s, -, -, hs, -⟩ := hmixes
  obtain ⟨d, hd, hs⟩ := List.mem_filterMap.1 hs
  exact h field.1 (List.mem_map_of_mem hfield) d hd s hs

theorem consistent_at_places {order : Document → Document → Ordering} (h : Consistent order docs)
    (places : List (Fin docs.length)) :
    Consistent (fun p q : Fin docs.length => order docs[p] docs[q]) places where
  swap _ _ _ _ := h.swap _ (List.getElem_mem _) _ (List.getElem_mem _)
  trans _ _ _ _ _ _ :=
    h.trans _ (List.getElem_mem _) _ (List.getElem_mem _) _ (List.getElem_mem _)
  trans_eq _ _ _ _ _ _ :=
    h.trans_eq _ (List.getElem_mem _) _ (List.getElem_mem _) _ (List.getElem_mem _)

/-- The matching documents that come first in order are the rows. -/
theorem topRows_take {order : Document → Document → Ordering} (h : Consistent order docs)
    (limit : Option Int64) (meets : Document → Bool) :
    TopRows order limit meets docs
      ((sortStably (fun p q : Fin docs.length => order docs[p] docs[q])
        (matchingPlaces meets docs)).take (rowCount limit (docs.countP meets))) := by
  have hperm : (sortStably (fun p q : Fin docs.length => order docs[p] docs[q])
    (matchingPlaces meets docs)).Perm (matchingPlaces meets docs) := sortStably_perm _
  have hstored : (matchingPlaces meets docs).Pairwise (· < ·) :=
    (List.pairwise_lt_finRange docs.length).filter _
  have hsorted :=
    (consistent_at_places h (matchingPlaces meets docs)).pairwise_sortStably hstored
  generalize sortStably (fun p q : Fin docs.length => order docs[p] docs[q])
    (matchingPlaces meets docs) = sorted at *
  have hlength : sorted.length = docs.countP meets := by
    rw [hperm.length_eq, List.countP_eq_length_filter, ← map_matchingPlaces, List.length_map]
  constructor
  · intro p hp
    exact mem_matchingPlaces.1 (hperm.mem_iff.1 (List.mem_of_mem_take hp))
  · have hnodup : (matchingPlaces meets docs).Nodup := (List.nodup_finRange _).filter _
    exact (hperm.nodup_iff.2 hnodup).sublist (List.take_sublist _ _)
  · rw [List.length_take, hlength]
    exact Nat.min_eq_left (rowCount_le _ _)
  · exact hsorted.sublist (List.take_sublist _ _)
  · intro p hp q hq hleft
    rw [← List.take_append_drop (rowCount limit (docs.countP meets)) sorted,
      List.pairwise_append] at hsorted
    have hmem : q ∈ sorted := hperm.mem_iff.2 (mem_matchingPlaces.2 hq)
    rw [← List.take_append_drop (rowCount limit (docs.countP meets)) sorted, List.mem_append] at hmem
    exact hsorted.2.2 p hp q (hmem.resolve_left hleft)

theorem arrange_filter (options : FindOptions) (meets : Document → Bool) (docs : List Document) :
    arrange options (docs.filter meets) =
      ((sortStably (fun p q : Fin docs.length => compareBy (Collation.caseRule options.collation)
        (options.sort.getD []) docs[p] docs[q]) (matchingPlaces meets docs)).take
          (rowCount options.limit (docs.countP meets))).map fun p => docs[p] := by
  rw [arrange_eq, List.map_take, ← List.countP_eq_length_filter, ← map_matchingPlaces,
    sortStably_map fun _ _ _ _ => rfl]

end Table

variable [Regex.Engine]

/-- Where the filter gives a verdict on every document and no symbol stands at a field that is sorted by,
a search returns the documents at places that are the first in order: as many as there are matching
ones, or as the limit allows in absolute value, each place once, in order and in the order in which
they are stored where they come out equal, and all of them before every matching one that is left out.
The places do not depend on the projection. -/
theorem find_topRows {docs : List Document} {filter : Document} {options : FindOptions}
    {meets : Document → Bool}
    (hverdicts : ∀ d ∈ docs,
      d.matchesFilter (Collation.caseRule options.collation) filter = .ok (meets d))
    (hsymbols : ∀ path ∈ Document.keys ((options.sort.getD []).take Document.maxSortFields),
      ∀ d ∈ docs, ∀ s, d.at? path ≠ some (.symbol s)) :
    ∃ places : List (Fin docs.length),
      Table.TopRows (Document.compareBy (Collation.caseRule options.collation)
        (options.sort.getD [])) options.limit meets docs places ∧
      ∀ projection name fresh,
        Command.run name fresh (.find filter { options with projection }) docs =
          .ok (.rows (places.map fun p => Table.shape projection docs[p]), docs) := by
  refine ⟨_, Table.topRows_take (Table.consistent_compareBy hsymbols) options.limit meets,
    fun projection name fresh => ?_⟩
  have harrange := Table.arrange_filter { options with projection } meets docs
  rw [Command.run_find, Table.find_eq_arrange, Table.select_of_verdicts hverdicts]
  simp only [Except.map, harrange, List.map_map]
  rfl

end

open scoped Regex

/-- The names of the two rows differ only in case and come out equal, so the earlier document is the
first row; a negative limit counts by its absolute value. -/
theorem find_topRows_tied :
    let docs : List Document := [[("_id", .int32 1), ("name", .string "b"), ("kept", .bool true)],
      [("_id", .int32 2), ("name", .string "A"), ("kept", .bool true)],
      [("_id", .int32 3), ("name", .string "a"), ("kept", .bool true)],
      [("_id", .int32 4), ("kept", .bool false)]]
    let byName : Document := [("name", .int32 1)]
    let options : FindOptions := ⟨some (-2), some byName, some byName, some ⟨"en", .secondary⟩⟩
    Command.run "" default (.find [("kept", .bool true)] options) docs =
      .ok (.rows [[("_id", .int32 2), ("name", .string "A")],
        [("_id", .int32 3), ("name", .string "a")]], docs) := by
  intro docs byName options
  let meets : Document → Bool := fun d => (d.get? "name").isSome
  have hverdicts : ∀ d ∈ docs, d.matchesFilter (Collation.caseRule options.collation)
      [("kept", .bool true)] = .ok (meets d) := by
    simp only [docs, List.forall_mem_cons]
    exact ⟨rfl, rfl, rfl, rfl, nofun⟩
  have hsymbols : ∀ path ∈ Document.keys ((options.sort.getD []).take Document.maxSortFields),
      ∀ d ∈ docs, ∀ s, d.at? path ≠ some (.symbol s) := by
    intro path hpath d hd s
    rw [List.mem_singleton.1 hpath]
    revert d
    simp only [docs, List.forall_mem_cons]
    refine ⟨?_, ?_, ?_, ?_, nofun⟩ <;> rintro ⟨⟩
  obtain ⟨places, htop, hrun⟩ := find_topRows hverdicts hsymbols
  obtain ⟨p, q, rfl⟩ := List.length_eq_two.1 htop.length_eq
  have hsorted := List.rel_of_pairwise_cons htop.sorted List.mem_cons_self
  have hbest := htop.best q (List.mem_cons_of_mem _ List.mem_cons_self)
  have hmatched := htop.matched
  unfold Precedes at hsorted hbest
  -- No other two places are in order and before the matching ones that are left out.
  have hplaces : p = (1 : Fin 4) ∧ q = (2 : Fin 4) := by
    clear hrun htop hverdicts hsymbols
    decide +kernel +revert
  rw [hrun options.projection, hplaces.1, hplaces.2]
  rfl

end DocStore
