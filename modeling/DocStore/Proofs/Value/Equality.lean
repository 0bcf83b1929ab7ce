import DocStore.Proofs.Document.Fields
import DocStore.Value.Equality
import Mathlib.Data.List.Perm.Subperm
/-!
Symmetry of the equality of values. Equality looks up each field of one document in the other, which
comes to the same in both directions because fields have names of their own. A list of fields in which
a name occurs twice is no document of a store, and there the two directions may differ.
-/
namespace DocStore

theorem Binary64.same_comm (x y : Binary64) : x.same y = y.same x := by
  rw [same, same, Bool.and_comm (!x.isNaN), BEq.comm (a := x), Bool.and_comm x.isZero]

namespace Document

variable {d e : Document} {key : String} {v : Value}

theorem mem_of_get? (h : d.get? key = some v) : (key, v) ∈ d := by
  induction d with
  | nil => cases h
  | cons field rest ih =>
    obtain ⟨k, w⟩ := field
    rw [get?_cons] at h
    split at h
    · rename_i hk
      cases h
      rw [hk]
      exact List.mem_cons_self
    · exact List.mem_cons_of_mem _ (ih h)

theorem mem_keys (h : (key, v) ∈ d) : key ∈ d.keys :=
  List.mem_map_of_mem (f := Prod.fst) h

theorem get?_of_mem (hd : d.keys.Nodup) (h : (key, v) ∈ d) : d.get? key = some v := by
  induction d with
  | nil => cases h
  | cons field rest ih =>
    obtain ⟨k, w⟩ := field
    obtain ⟨hfresh, hrest⟩ := List.nodup_cons.1 hd
    rw [get?_cons]
    rcases List.mem_cons.1 h with heq | hmem
    · cases heq
      exact if_pos rfl
    · have hk : key ≠ k := fun heq => hfresh (heq ▸ mem_keys hmem)
      rw [if_neg hk]
      exact ih hrest hmem

end Document

namespace Value

open Document (keys mem_keys mem_of_get? get?_of_mem)

mutual

/-- No two fields of a document have one name, at any depth. -/
def DistinctKeys : Value → Prop
  | .array items => DistinctItems items
  | .document fields | .codeWithScope _ fields => (keys fields).Nodup ∧ DistinctFields fields
  | _ => True

def DistinctItems : List Value → Prop
  | [] => True
  | v :: rest => DistinctKeys v ∧ DistinctItems rest

def DistinctFields : List (String × Value) → Prop
  | [] => True
  | (_, v) :: rest => DistinctKeys v ∧ DistinctFields rest

end

theorem distinctFields_iff {d : List (String × Value)} :
    DistinctFields d ↔ ∀ field ∈ d, field.2.DistinctKeys := by
  induction d with
  | nil => simp [DistinctFields]
  | cons field rest ih => simp [DistinctFields, ih]

theorem equalFields_iff {d e : Document} : equalFields d e = true ↔
    ∀ field ∈ d, ∃ w, e.get? field.1 = some w ∧ field.2.equal w = true := by
  induction d with
  | nil => simp [equalFields]
  | cons field rest ih =>
    obtain ⟨key, v⟩ := field
    rw [equalFields, Bool.and_eq_true, ih, List.forall_mem_cons]
    refine and_congr_left fun _ => ?_
    rw [Document.get?]
    cases List.lookup key e <;> simp

/-- Documents of one size whose fields are all found in the other one have the same names. -/
theorem equalFields_symm {d e : Document} (hd : d.keys.Nodup) (he : e.keys.Nodup)
    (hlength : d.length = e.length)
    (hsymm : ∀ field ∈ d, ∀ w, (field.1, w) ∈ e → field.2.equal w = true → w.equal field.2 = true)
    (h : equalFields d e = true) : equalFields e d = true := by
  rw [equalFields_iff] at h ⊢
  have hsub : d.keys ⊆ e.keys := by
    intro key hkey
    obtain ⟨field, hfield, rfl⟩ := List.mem_map.1 hkey
    obtain ⟨w, hw, _⟩ := h field hfield
    exact mem_keys (mem_of_get? hw)
  have hsize : d.keys.length = e.keys.length := by
    rw [keys, keys, List.length_map, List.length_map, hlength]
  have hkeys : d.keys.Perm e.keys :=
    (List.subperm_of_subset hd hsub).perm_of_length_le (Nat.le_of_eq hsize.symm)
  rintro ⟨key, w⟩ hw
  obtain ⟨⟨_, v⟩, hv, rfl⟩ := List.mem_map.1 (hkeys.mem_iff.2 (mem_keys hw))
  obtain ⟨w', hw', hequal⟩ := h _ hv
  cases (get?_of_mem he hw).symm.trans hw'
  exact ⟨v, get?_of_mem hd hv, hsymm _ hv w hw hequal⟩

mutual

theorem equal_symm (v w : Value) (hv : v.DistinctKeys) (hw : w.DistinctKeys)
    (h : v.equal w = true) : w.equal v = true := by
  revert h
  fun_cases equal v w <;> intro h
  case case18 a s b t =>
    simp only [equal, Bool.and_eq_true, beq_iff_eq] at h ⊢
    obtain ⟨⟨hcode, hlength⟩, hfields⟩ := h
    exact ⟨⟨hcode.symm, hlength.symm⟩, equalFields_symm hv.1 hw.1 hlength
      (fun field hfield w hmem => field_symm s hv.2 field hfield w (distinctFields_iff.1 hw.2 _ hmem))
      hfields⟩
  case case20 xs ys => exact equalItems_symm xs ys hv hw h
  case case21 d e =>
    simp only [equal, Bool.and_eq_true, beq_iff_eq] at h ⊢
    exact ⟨h.1.symm, equalFields_symm hv.1 hw.1 h.1
      (fun field hfield w hmem => field_symm d hv.2 field hfield w (distinctFields_iff.1 hw.2 _ hmem))
      h.2⟩
  -- Values of different types are not equal.
  case case22 => cases h
  case case1 | case2 | case3 | case4 => rfl
  all_goals simpa [equal, BEq.comm, Binary64.same_comm] using h

theorem equalItems_symm (xs ys : List Value) (hxs : DistinctItems xs) (hys : DistinctItems ys)
    (h : equalItems xs ys = true) : equalItems ys xs = true := by
  match xs, ys with
  | [], [] => rfl
  | x :: xs, y :: ys =>
    rw [equalItems, Bool.and_eq_true] at h ⊢
    exact ⟨equal_symm x y hxs.1 hys.1 h.1, equalItems_symm xs ys hxs.2 hys.2 h.2⟩

theorem field_symm (d : List (String × Value)) (hd : DistinctFields d) (field : String × Value)
    (hfield : field ∈ d) (w : Value) (hw : w.DistinctKeys) (h : field.2.equal w = true) :
    w.equal field.2 = true := by
  match d with
  | (key, v) :: rest =>
    rcases List.mem_cons.1 hfield with rfl | hmem
    · exact equal_symm v w hd.1 hw h
    · exact field_symm rest hd.2 field hmem w hw h

end

theorem equal_comm {v w : Value} (hv : v.DistinctKeys) (hw : w.DistinctKeys) :
    v.equal w = w.equal v :=
  Bool.eq_iff_iff.2 ⟨equal_symm v w hv hw, equal_symm w v hw hv⟩

/-- In a list that has a name twice, the second field of that name is never looked at. -/
example : equal (.document [("a", .null), ("b", .null)]) (.document [("a", .null), ("a", .null)]) =
      false ∧
    equal (.document [("a", .null), ("a", .null)]) (.document [("a", .null), ("b", .null)]) =
      true := by
  decide

end Value

end DocStore
