import DocStore.Proofs.Document.Lens
import Mathlib.Data.List.MinMax
/-!
Setting many paths again. Where several paths go through one field, the field is settled by the last
of them that ends there and by those after it. So what an earlier run of writes has left does not
matter to a later run at the same paths: it ends where it would have ended without the earlier one.
-/
namespace DocStore

namespace Document

variable {d d' : Document} {key : String} {v : Value}

/-- The fields that are not named `key`. -/
abbrev without (key : String) (fields : Document) : Document :=
  fields.filter fun field => field.1 ≠ key

section InsertAll

variable {fields first second third : Document}

theorem insertAll_cons (d : Document) (key : String) (v : Value) (fields : Document) :
    d.insertAll ((key, v) :: fields) = (d.insert key v).insertAll fields := rfl

theorem keys_without (key : String) (fields : Document) :
    (fields.without key).keys = fields.keys.filter (· ≠ key) := by
  rw [keys, keys, List.filter_map]
  rfl

theorem get?_insertAll_of_not_mem (h : key ∉ fields.keys) (d : Document) :
    (d.insertAll fields).get? key = d.get? key := by
  induction fields generalizing d with
  | nil => rfl
  | cons field rest ih =>
    obtain ⟨k, v⟩ := field
    obtain ⟨hfield, hrest⟩ := List.ne_and_not_mem_of_not_mem_cons h
    rw [insertAll_cons, ih hrest, get?_insert, if_neg hfield]

theorem get?_insertAll_without (d : Document) (key : String) (fields : Document) :
    (d.insertAll (fields.without key)).get? key = d.get? key := by
  apply get?_insertAll_of_not_mem
  rw [keys_without]
  intro hmem
  simpa using List.of_mem_filter hmem

/-- A field in front stays there, and takes for itself what is put at its key. -/
theorem exists_insertAll_cons (key : String) (v : Value) (rest fields : Document) :
    ∃ w, insertAll ((key, v) :: rest) fields = (key, w) :: rest.insertAll (fields.without key) := by
  induction fields generalizing v rest with
  | nil => exact ⟨v, rfl⟩
  | cons field fields ih =>
    obtain ⟨k, u⟩ := field
    rw [insertAll_cons, insert]
    by_cases hk : key = k
    · rw [if_pos hk, without, List.filter_cons_of_neg (by simpa using hk.symm)]
      exact ih u rest
    · rw [if_neg hk, without, List.filter_cons_of_pos (by simpa using Ne.symm hk), insertAll_cons]
      exact ih v (rest.insert k u)

/-- There is a field in front, of the document or else of those that are put in it, and the rest is
put together without it. -/
theorem exists_front (h : d ≠ [] ∨ first ≠ []) :
    ∃ (key : String) (rest : Document),
      rest.length + (first.without key).length < d.length + first.length ∧
      ∀ fields : Document, fields.keys = first.keys →
        ∃ w, d.insertAll fields = (key, w) :: rest.insertAll (fields.without key) := by
  cases d with
  | cons field rest =>
    obtain ⟨key, v⟩ := field
    have hfewer : (first.without key).length ≤ first.length := List.length_filter_le _ first
    refine ⟨key, rest, ?_, fun fields _ => exists_insertAll_cons key v rest fields⟩
    rw [List.length_cons]
    omega
  | nil =>
    obtain ⟨⟨key, v⟩, more, rfl⟩ := List.exists_cons_of_ne_nil (h.resolve_left (not_not_intro rfl))
    have hfewer := List.length_filter_le (fun field => field.1 ≠ key) more
    refine ⟨key, [], ?_, fun fields hfields => ?_⟩
    · rw [without, List.filter_cons_of_neg (by simp), List.length_cons]
      omega
    · obtain ⟨⟨k, u⟩, others, rfl, hk, -⟩ := List.map_eq_cons_iff.1 hfields
      obtain rfl : k = key := hk
      rw [without, List.filter_cons_of_neg (by simp)]
      exact exists_insertAll_cons k u [] others

/-- Putting values at some keys twice comes to putting values there once, if the fields read the
same. -/
theorem insertAll_insertAll {d first second third : Document}
    (hfirst : first.keys = second.keys) (hthird : third.keys = second.keys)
    (hget : ∀ key, ((d.insertAll first).insertAll second).get? key = (d.insertAll third).get? key) :
    (d.insertAll first).insertAll second = d.insertAll third := by
  by_cases hnil : d ≠ [] ∨ second ≠ []
  · obtain ⟨key, rest, hless, hfront⟩ := exists_front hnil
    obtain ⟨v₁, h₁⟩ := hfront first hfirst
    obtain ⟨v₂, h₂⟩ := exists_insertAll_cons key v₁ (rest.insertAll (first.without key)) second
    obtain ⟨v₃, h₃⟩ := hfront third hthird
    rw [h₁, h₂, h₃] at hget ⊢
    have hvalue : v₂ = v₃ := by simpa [get?_cons] using hget key
    rw [hvalue, insertAll_insertAll (d := rest)]
    · rw [keys_without, keys_without, hfirst]
    · rw [keys_without, keys_without, hthird]
    · intro other
      by_cases hother : other = key
      · simp only [hother, get?_insertAll_without]
      · simpa [get?_cons, hother] using hget other
  · obtain ⟨rfl, rfl⟩ := not_or.1 hnil |>.imp not_not.1 not_not.1
    rw [List.map_eq_nil_iff.1 hfirst, List.map_eq_nil_iff.1 hthird]
    rfl
termination_by d.length + second.length

end InsertAll

/-- The document that a value is, empty for anything else. -/
def inside : Option Value → Document
  | some (.document fields) => fields
  | _ => []

theorem child_eq_inside (d : Document) (key : String) : d.child key = inside (d.get? key) := by
  unfold child inside
  cases d.get? key with
  | none => rfl
  | some v => cases v <;> rfl

end Document

/-- A value to be put at the end of a way. -/
structure Write where
  way : List String
  value : Value

namespace Write

open Document

variable {d : Document} {old old' : Option Value} {key : String} {w : Write}
  {writes others : List Write}

def on (d : Document) (w : Write) : Document := (d.modifyParent (insertNoting w.value) w.way).1

/-- Carries out writes one after the other. -/
def run (d : Document) (writes : List Write) : Document := writes.foldl on d

/-- What a write makes of the value that it starts from. -/
def onto (old : Option Value) (w : Write) : Value :=
  match w.way with
  | [] => w.value
  | _ :: _ => .document (w.on (inside old))

def settle (old : Option Value) (writes : List Write) : Option Value :=
  writes.foldl (fun old w => some (w.onto old)) old

/-- What is left of a way below a key, if the way begins with it. -/
def rest? (key : String) : List String → Option (List String)
  | [] => none
  | first :: rest => if first = key then some rest else none

/-- What a write does to the field of a key, from that field on. -/
def below? (key : String) (w : Write) : Option Write :=
  (rest? key w.way).map fun rest => ⟨rest, w.value⟩

def below (key : String) (writes : List Write) : List Write := writes.filterMap (below? key)

theorem on_cons (d : Document) (key : String) (rest : List String) (v : Value) :
    on d ⟨key :: rest, v⟩ = d.insert key (onto (d.get? key) ⟨rest, v⟩) := by
  cases rest with
  | nil => rfl
  | cons next more =>
    rw [on, modifyParent_cons _ _ _ (List.cons_ne_nil next more), child_eq_inside]
    rfl

theorem get?_on (d : Document) (w : Write) (key : String) :
    (on d w).get? key = settle (d.get? key) (below? key w).toList := by
  obtain ⟨way, v⟩ := w
  cases way with
  | nil => rfl
  | cons first rest =>
    rw [on_cons, get?_insert, below?, rest?]
    by_cases hkey : key = first
    · rw [if_pos hkey, if_pos hkey.symm, hkey]
      rfl
    · rw [if_neg hkey, if_neg (Ne.symm hkey)]
      rfl

/-- A field is settled by what the writes do to it. -/
theorem get?_run (d : Document) (writes : List Write) (key : String) :
    (run d writes).get? key = settle (d.get? key) (below key writes) := by
  induction writes generalizing d with
  | nil => rfl
  | cons w rest ih =>
    have hbelow : below key (w :: rest) = (below? key w).toList ++ below key rest := by
      rw [below, List.filterMap_cons]
      cases below? key w <;> rfl
    rw [hbelow, settle, List.foldl_append]
    exact (ih (on d w)).trans (congrArg (settle · (below key rest)) (get?_on d w key))

/-- Writes put values at the keys that their ways begin with, and nowhere else. -/
theorem exists_run (hways : ∀ w ∈ writes, w.way ≠ []) (d : Document) :
    ∃ fields : Document, run d writes = d.insertAll fields ∧
      fields.keys = (writes.map way).map (·.headD "") := by
  induction writes generalizing d with
  | nil => exact ⟨[], rfl, rfl⟩
  | cons w rest ih =>
    obtain ⟨way, v⟩ := w
    obtain ⟨hway, hrest⟩ := List.forall_mem_cons.1 hways
    obtain ⟨key, more, rfl⟩ := List.exists_cons_of_ne_nil hway
    obtain ⟨fields, hrun, hkeys⟩ := ih hrest (on d ⟨key :: more, v⟩)
    refine ⟨(key, onto (d.get? key) ⟨more, v⟩) :: fields, ?_, ?_⟩
    · rw [insertAll_cons, ← on_cons]
      exact hrun
    · rw [List.map_cons, List.map_cons, ← hkeys]
      rfl

/-- A write that ends at a value leaves nothing of the one that was there. -/
theorem settle_of_ends (h : [] ∈ writes.map way) : settle old writes = settle old' writes := by
  induction writes generalizing old old' with
  | nil => cases h
  | cons w rest ih =>
    rcases List.mem_cons.1 h with hway | hrest
    · have honto : w.onto old = w.onto old' := by rw [onto, onto, ← hway]
      rw [settle, settle, List.foldl_cons, List.foldl_cons, honto]
    · exact ih hrest

/-- A write that goes on from a value works on the document that it is. -/
theorem onto_of_continues (hway : w.way ≠ []) (old : Option Value) :
    w.onto old = .document (w.on (inside old)) := by
  obtain ⟨way, v⟩ := w
  cases way with
  | nil => exact absurd rfl hway
  | cons first more => rfl

theorem settle_document (hways : ∀ w ∈ writes, w.way ≠ []) (d : Document) :
    settle (some (.document d)) writes = some (.document (run d writes)) := by
  induction writes generalizing d with
  | nil => rfl
  | cons w rest ih =>
    obtain ⟨hway, hrest⟩ := List.forall_mem_cons.1 hways
    rw [settle, List.foldl_cons, onto_of_continues hway]
    exact ih hrest (w.on d)

theorem settle_of_continues (hways : ∀ w ∈ writes, w.way ≠ []) (hne : writes ≠ [])
    (old : Option Value) : settle old writes = some (.document (run (inside old) writes)) := by
  obtain ⟨w, rest, rfl⟩ := List.exists_cons_of_ne_nil hne
  obtain ⟨hway, hrest⟩ := List.forall_mem_cons.1 hways
  rw [settle, List.foldl_cons, onto_of_continues hway]
  exact settle_document hrest _

theorem inside_settle (hways : ∀ w ∈ writes, w.way ≠ []) (old : Option Value) :
    inside (settle old writes) = run (inside old) writes := by
  by_cases hne : writes = []
  · rw [hne]
    rfl
  · rw [settle_of_continues hways hne]
    rfl

theorem ways_below (key : String) (writes : List Write) :
    (below key writes).map way = (writes.map way).filterMap (rest? key) := by
  rw [below, List.map_filterMap, List.filterMap_map]
  refine List.filterMap_congr fun w _ => ?_
  rw [below?, Option.map_map]
  exact Option.map_id'

/-- The ways below a key are shorter by that key. -/
theorem length_of_mem_below (h : w ∈ below key writes) :
    ∃ w' ∈ writes, w'.way.length = w.way.length + 1 := by
  obtain ⟨⟨way, v⟩, hmem, hbelow⟩ := List.mem_filterMap.1 h
  refine ⟨_, hmem, ?_⟩
  obtain ⟨rest, hrest, rfl⟩ := Option.map_eq_some_iff.1 hbelow
  cases way with
  | nil => cases hrest
  | cons first more =>
    obtain ⟨-, hmore⟩ := Option.ite_none_right_eq_some.1 hrest
    rw [← Option.some.inj hmore]
    rfl

theorem continue_iff : (∀ w ∈ writes, w.way ≠ []) ↔ [] ∉ writes.map way := by
  simp [List.mem_map]

/-- A value on which earlier writes were carried out is settled in the same way as without them, if
this holds for the documents inside. -/
theorem settle_settle (hsame : writes.map way = others.map way)
    (hinside : (∀ w ∈ others, w.way ≠ []) → ∀ d, run (run d writes) others = run d others) :
    settle (settle old writes) others = settle old others := by
  by_cases hends : [] ∈ others.map way
  · exact settle_of_ends hends
  · have hothers := continue_iff.2 hends
    have hwrites := continue_iff.2 (hsame ▸ hends)
    by_cases hne : others = []
    · rw [hne] at hsame ⊢
      rw [List.map_eq_nil_iff.1 hsame]
      rfl
    · rw [settle_of_continues hothers hne, settle_of_continues hothers hne, inside_settle hwrites,
        hinside hothers]

/-- Writes that went before are not noticed by later ones at the same places. -/
theorem run_run (hsame : writes.map way = others.map way) (hways : ∀ w ∈ others, w.way ≠ [])
    (d : Document) : run (run d writes) others = run d others := by
  -- The ways become shorter with each document that is entered.
  obtain ⟨n, hn⟩ : ∃ n, ∀ w ∈ others, w.way.length < n :=
    ⟨(others.map (·.way.length)).foldr max 0 + 1, fun w hw =>
      Nat.lt_succ_of_le (List.le_max_of_le' 0 (List.mem_map_of_mem hw) le_rfl)⟩
  induction n generalizing writes others d with
  | zero =>
    have hothers := List.eq_nil_iff_forall_not_mem.2 fun w hw => Nat.not_lt_zero _ (hn w hw)
    rw [hothers] at hsame ⊢
    rw [List.map_eq_nil_iff.1 hsame]
    rfl
  | succ n ih =>
    have hwrites := continue_iff.2 (hsame ▸ continue_iff.1 hways)
    obtain ⟨first, hfirst, hkeys₁⟩ := exists_run hwrites d
    obtain ⟨second, hsecond, hkeys₂⟩ := exists_run hways (d.insertAll first)
    obtain ⟨third, hthird, hkeys₃⟩ := exists_run hways d
    rw [hfirst, hsecond, hthird]
    refine insertAll_insertAll (by rw [hkeys₁, hkeys₂, hsame]) (by rw [hkeys₃, hkeys₂]) fun key => ?_
    rw [← hthird, ← hsecond, ← hfirst, get?_run, get?_run, get?_run]
    refine settle_settle (by rw [ways_below, ways_below, hsame]) fun hbelow d => ?_
    refine ih (by rw [ways_below, ways_below, hsame]) hbelow d fun w hw => ?_
    obtain ⟨w', hw', hlength⟩ := length_of_mem_below hw
    have hless := hn w' hw'
    omega

end Write

namespace Document

variable {d d' : Document} {fields : Document}

/-- The writes of a modifier that sets fields. -/
def writes (fields : Document) : List Write :=
  fields.map fun (path, v) => ⟨pathSegments path, v⟩

theorem ways_writes (fields : Document) :
    fields.writes.map Write.way = fields.keys.map pathSegments := by
  rw [writes, keys, List.map_map, List.map_map]
  rfl

theorem modifyAll_set_iff (changed : Bool) :
    (∃ after, d.modifyAll "$set" changed fields = .ok (d', after)) ↔
      "_id" ∉ fields.keys ∧ d' = Write.run d fields.writes := by
  induction fields generalizing d changed with
  | nil =>
    constructor
    · rintro ⟨after, h⟩
      cases h
      exact ⟨List.not_mem_nil, rfl⟩
    · rintro ⟨-, rfl⟩
      exact ⟨changed, rfl⟩
  | cons field rest ih =>
    obtain ⟨path, v⟩ := field
    by_cases hpath : path = "_id"
    · constructor
      · rintro ⟨after, h⟩
        rw [modifyAll, modify, if_pos hpath] at h
        cases h
      · rintro ⟨hid, -⟩
        exact absurd (hpath ▸ List.mem_cons_self) hid
    · have hmodify : d.modify "$set" path v = .ok (d.setAt path v) := if_neg hpath
      have hid : "_id" ∉ keys ((path, v) :: rest) ↔ "_id" ∉ keys rest :=
        not_congr (List.mem_cons.trans (or_iff_right (Ne.symm hpath)))
      rw [modifyAll, hmodify, hid]
      exact ih _

/-- Setting fields fails only at the identity, and comes to the writes of the fields in order. -/
theorem applyUpdate_set_iff :
    (∃ changed, d.applyUpdate [("$set", .document fields)] = .ok (d', changed)) ↔
      "_id" ∉ fields.keys ∧ d' = Write.run d fields.writes := by
  rw [← modifyAll_set_iff false]
  refine exists_congr fun changed => ?_
  rw [applyUpdate, if_neg (by simp), applyModifiers]
  cases d.modifyAll "$set" false fields <;> rfl

/-- Setting paths that have been set before ends where it would have ended without the first time. -/
theorem applyUpdate_set_set {others : Document} (hkeys : others.keys = fields.keys) {changed : Bool}
    (h : d.applyUpdate [("$set", .document fields)] = .ok (d', changed)) :
    ∃ next again once, d'.applyUpdate [("$set", .document others)] = .ok (next, again) ∧
      d.applyUpdate [("$set", .document others)] = .ok (next, once) := by
  obtain ⟨hid, rfl⟩ := applyUpdate_set_iff.1 ⟨changed, h⟩
  have hsame : fields.writes.map Write.way = others.writes.map Write.way := by
    rw [ways_writes, ways_writes, hkeys]
  have hways : ∀ w ∈ others.writes, w.way ≠ [] := by
    intro w hw
    obtain ⟨field, -, rfl⟩ := List.mem_map.1 hw
    exact pathSegments_ne_nil field.1
  rw [← hkeys] at hid
  obtain ⟨again, hagain⟩ := applyUpdate_set_iff.2 ⟨hid, (Write.run_run hsame hways d).symm⟩
  obtain ⟨once, honce⟩ := applyUpdate_set_iff.2 ⟨hid, rfl⟩
  exact ⟨_, again, once, hagain, honce⟩

/-- Setting fields again changes nothing. -/
theorem applyUpdate_set_self {changed : Bool}
    (h : d.applyUpdate [("$set", .document fields)] = .ok (d', changed)) :
    ∃ again, d'.applyUpdate [("$set", .document fields)] = .ok (d', again) := by
  obtain ⟨next, again, once, hagain, honce⟩ := applyUpdate_set_set rfl h
  cases h.symm.trans honce
  exact ⟨again, hagain⟩

end Document

end DocStore
