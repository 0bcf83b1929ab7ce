import DocStore.Proofs.Expression.Compilation
import DocStore.Regex.Default
/-!
Equality with arrays. A value equals an array if the whole array or one of its items is that value, but
an array is looked for as the whole array only. So an array that stands among the items is never found.
-/
namespace DocStore

section

namespace Value

variable {xs ys : List Value} {x : Value} {i : Nat}

theorem length_eq_of_equalItems (h : equalItems xs ys = true) : xs.length = ys.length := by
  induction xs generalizing ys with
  | nil => cases ys <;> first | rfl | cases h
  | cons x xs ih =>
    cases ys with
    | nil => cases h
    | cons y ys =>
      rw [equalItems, Bool.and_eq_true] at h
      rw [List.length_cons, List.length_cons, ih h.2]

/-- Equal arrays have equal items at each place. -/
theorem exists_of_equalItems (h : equalItems xs ys = true) (hx : xs[i]? = some x) :
    ∃ y, ys[i]? = some y ∧ x.equal y = true := by
  induction xs generalizing ys i with
  | nil => cases hx
  | cons first xs ih =>
    cases ys with
    | nil => cases h
    | cons y ys =>
      rw [equalItems, Bool.and_eq_true] at h
      cases i with
      | zero =>
        cases hx
        exact ⟨y, rfl, h.1⟩
      | succ i =>
        obtain ⟨y', hy', hequal⟩ := ih h.2 hx
        exact ⟨y', hy', hequal⟩

theorem exists_of_equal_array {v : Value} (h : v.equal (.array ys) = true) :
    ∃ xs, v = .array xs ∧ equalItems xs ys = true := by
  cases v with
  | array xs => exact ⟨xs, rfl, h⟩
  | _ => cases h

/-- No value equals both an array and one of its items. If one did, then the item would be an array
with an item at the same place, and the two would be equal to one value again. -/
theorem not_equal_of_item {xs : List Value} {x t : Value} {i : Nat} (hx : xs[i]? = some x)
    (hwhole : (array xs).equal t = true) : x.equal t = false := by
  refine Bool.eq_false_iff.2 fun hitem => ?_
  obtain ⟨ts, rfl⟩ : ∃ ts, t = .array ts := by
    cases t <;> first | exact ⟨_, rfl⟩ | cases hwhole
  obtain ⟨ys, rfl, hitems⟩ := exists_of_equal_array hitem
  obtain ⟨t, ht, hfirst⟩ := exists_of_equalItems hwhole hx
  obtain ⟨hi, -⟩ := List.getElem?_eq_some_iff.1 ht
  have hlength := length_eq_of_equalItems hitems
  obtain ⟨y, hy⟩ : ∃ y, ys[i]? = some y := ⟨_, List.getElem?_eq_getElem (hlength ▸ hi)⟩
  obtain ⟨t', ht', hsecond⟩ := exists_of_equalItems hitems hy
  cases ht.symm.trans ht'
  have hsmaller : sizeOf ys < sizeOf xs := by
    have := List.sizeOf_lt_of_mem (List.mem_of_getElem? hx)
    simp only [Value.array.sizeOf_spec] at this
    omega
  rw [not_equal_of_item hy hfirst] at hsecond
  cases hsecond
termination_by sizeOf xs

theorem matchesEqual_array (rule : CaseRule) (v : Value) (ts : List Value) :
    v.matchesEqual rule (.array ts) = v.equal (.array ts) := by
  cases rule <;> cases v <;> rfl

theorem array_matchesEqual (rule : CaseRule) (items : List Value) {t : Value}
    (h : t.isArray = false) : (array items).matchesEqual rule t = false := by
  cases rule <;> cases t <;> first | rfl | cases h

end Value

namespace Filter

/-- The whole array equals a value, or one of its items does. -/
def WholeOrItem (rule : CaseRule) (items : List Value) (target : Value) : Prop :=
  (Value.array items).matchesEqual rule target = true ∨
    ∃ item ∈ items, item.matchesEqual rule target = true

/-- The whole array equals a value, or the value is no array and one of the items equals it. -/
def Finds (rule : CaseRule) (items : List Value) (target : Value) : Prop :=
  (Value.array items).matchesEqual rule target = true ∨
    target.isArray = false ∧ ∃ item ∈ items, item.matchesEqual rule target = true

variable {rule : CaseRule} {items : List Value} {target : Value}

theorem finds_iff_equals : Finds rule items target ↔ Equals rule (some (.array items)) target := by
  unfold Finds Equals
  cases htarget : target.isArray with
  | true => simp
  | false => simp [Value.array_matchesEqual rule items htarget, Value.parts]

/-- What equality finds is all that it should find unless an array is among the items. -/
theorem finds_iff_wholeOrItem : (Finds rule items target ↔ WholeOrItem rule items target) ↔
    (target.isArray = true → ∀ item ∈ items, item.matchesEqual rule target = false) := by
  constructor
  · intro hsame harray item hitem
    obtain ⟨ts, rfl⟩ : ∃ ts, target = .array ts := by
      cases target <;> first | exact ⟨_, rfl⟩ | cases harray
    refine Bool.eq_false_iff.2 fun hequal => ?_
    obtain hwhole | ⟨hscalar, -⟩ := hsame.2 (.inr ⟨item, hitem, hequal⟩)
    · obtain ⟨i, hi⟩ := List.mem_iff_getElem?.1 hitem
      rw [Value.matchesEqual_array] at hwhole hequal
      rw [Value.not_equal_of_item hi hwhole] at hequal
      cases hequal
    · cases hscalar
  · intro hnone
    refine or_congr_right (and_iff_right_of_imp ?_)
    rintro ⟨item, hitem, hequal⟩
    refine Bool.eq_false_iff.2 fun harray => ?_
    rw [hnone harray item hitem] at hequal
    cases hequal

end Filter

variable [Regex.Engine]

open DocStore.Filter in
/-- Where an array stands at a field, equality with a value and membership of values in a list come to
the whole array and, for values that are no arrays, to its items. This is to say that the whole array or
one of its items equals the value, but for an array that equals one of the items. -/
theorem arrayEquality_iff {d : Document} {field : String} {items : List Value}
    (hfield : startsWithDollar field = false) (hitems : d.at? field = some (.array items))
    (rule : CaseRule) :
    let verdict := fun operator argument =>
      d.matchesFilter rule [(field, .document [(operator, argument)])]
    (∀ target, Decides (verdict "$eq" target) (Finds rule items target)) ∧
    (∀ targets,
      Decides (verdict "$in" (.array targets)) (∃ t ∈ targets, Finds rule items t) ∧
      Decides (verdict "$nin" (.array targets)) (∀ t ∈ targets, ¬Finds rule items t) ∧
      Decides (verdict "$all" (.array targets)) (targets ≠ [] ∧ ∀ t ∈ targets, Finds rule items t)) ∧
    ∀ target, (Finds rule items target ↔ WholeOrItem rule items target) ↔
      (target.isArray = true → ∀ item ∈ items, item.matchesEqual rule target = false) := by
  intro verdict
  have hverdict (operator : Operator) {operand : Value} (h : operator.Accepts operand) :
      Decides (d.matchesFilter rule [(field, .document (operator.condition operand))])
        (operator.Relates rule (some (.array items)) operand) := by
    rw [← hitems]
    exact decides_field rule d hfield h
  refine ⟨fun target => ?_, fun targets => ⟨?_, ?_, ?_⟩, fun target => finds_iff_wholeOrItem⟩
  · exact (hverdict .equal trivial).congr finds_iff_equals.symm
  · refine (hverdict .isIn ⟨targets, rfl⟩).congr ?_
    simp only [finds_iff_equals]
    rfl
  · refine (hverdict .notIn ⟨targets, rfl⟩).congr ?_
    simp only [finds_iff_equals]
    rfl
  · refine (hverdict .inAll ⟨targets, rfl⟩).congr ?_
    simp only [finds_iff_equals]
    rfl

end

open scoped Regex

/-- The text is found among the items, and the array that stands beside it is not. -/
theorem arrayEquality_iff_all :
    let d : Document := [("t", .array [.string "Red", .array [.string "Red"]])]
    let verdict := fun operator argument =>
      d.matchesFilter .folded [("t", .document [(operator, argument)])]
    verdict "$all" (.array [.string "rED"]) = .ok true ∧
      verdict "$nin" (.array [.array [.string "Red"]]) = .ok true := by
  intro d verdict
  obtain ⟨-, hlists, -⟩ := @arrayEquality_iff _ d "t" _ (by decide) rfl .folded
  obtain ⟨all, hall, hfinds⟩ := (hlists [.string "rED"]).2.2
  obtain ⟨others, hothers, hlacks⟩ := (hlists [.array [.string "Red"]]).2.1
  have htext : all = true := hfinds.2 ⟨List.cons_ne_nil _ _, by
    simp only [List.forall_mem_singleton]
    exact .inr ⟨rfl, .string "Red", List.mem_cons_self, rfl⟩⟩
  have harray : others = true := hlacks.2 <| by
    simp only [List.forall_mem_singleton]
    rintro (hwhole | ⟨hscalar, -⟩)
    · cases hwhole
    · cases hscalar
  exact ⟨htext ▸ hall, harray ▸ hothers⟩

/-- One of the items is the array that is looked for, and the array is not found. -/
theorem itemArray_not_found :
    let item : Value := .array [.int32 1, .int32 2]
    let d : Document := [("a", .array [item])]
    let verdict := fun operator argument =>
      d.matchesFilter .exact [("a", .document [(operator, argument)])]
    Filter.WholeOrItem .exact [item] item ∧ verdict "$eq" item = .ok false ∧
      verdict "$in" (.array [item]) = .ok false ∧ verdict "$nin" (.array [item]) = .ok true ∧
      verdict "$all" (.array [item]) = .ok false := by
  intro item d verdict
  exact ⟨.inr ⟨item, List.mem_cons_self, rfl⟩, rfl, rfl, rfl, rfl⟩

end DocStore
