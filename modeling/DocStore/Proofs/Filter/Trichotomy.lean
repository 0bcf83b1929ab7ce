import DocStore.Proofs.Expression.Meaning
import DocStore.Proofs.Filter.Conditions
import DocStore.Regex.Default
/-!
Less, equal and greater. Filters order values by one function and tell them apart by another. The two
agree on the types whose content is ordered; on the others order knows the type alone, so that two
different values of one type stand in neither relation, and yet each is at most the other.
-/
namespace DocStore

section

namespace Value

/-- The number that stands for the type of a value in its written form. -/
def elementType : Value → Nat
  | .double _ => 0x01
  | .string _ => 0x02
  | .document _ => 0x03
  | .array _ => 0x04
  | .binary _ _ => 0x05
  | .undefined => 0x06
  | .objectId _ => 0x07
  | .bool _ => 0x08
  | .dateTime _ => 0x09
  | .null => 0x0A
  | .regex _ _ => 0x0B
  | .dbPointer _ _ => 0x0C
  | .code _ => 0x0D
  | .symbol _ => 0x0E
  | .codeWithScope _ _ => 0x0F
  | .int32 _ => 0x10
  | .timestamp _ _ => 0x11
  | .int64 _ => 0x12
  | .decimal _ => 0x13
  | .maxKey => 0x7F
  | .minKey => 0xFF

/-- Values of one type, or two numbers. -/
def SameKind (a b : Value) : Prop :=
  (a.isNumber = true ∧ b.isNumber = true) ∨ a.elementType = b.elementType

/-- Whether order looks at more of a value than its type. -/
def isOrdered : Value → Bool
  | .int32 _ | .int64 _ | .double _ | .decimal _ | .string _ | .bool _ | .dateTime _
  | .objectId _ => true
  | _ => false

variable {rule : CaseRule} {a b : Value}

theorem typeRank_of_isNumber (h : a.isNumber = true) : a.typeRank = 2 := by
  cases a <;> first | rfl | cases h

theorem SameKind.typeRank_eq (h : SameKind a b) : a.typeRank = b.typeRank := by
  rcases h with ⟨ha, hb⟩ | h
  · rw [typeRank_of_isNumber ha, typeRank_of_isNumber hb]
  · cases a <;> cases b <;> first | rfl | cases h

theorem SameKind.comparable (h : SameKind a b) : a.comparable b = true := by
  rw [Value.comparable, h.typeRank_eq, beq_self_eq_true, Bool.or_true]

theorem compare_of_isNumber (ha : a.isNumber = true) (hb : b.isNumber = true) (rule : CaseRule) :
    a.compare rule b = a.compareNumbers b := by
  unfold Value.compare
  rw [ha, hb]
  rfl

theorem matchesEqual_of_isNumber (ha : a.isNumber = true) (hb : b.isNumber = true)
    (rule : CaseRule) : a.matchesEqual rule b = (a.compareNumbers b == .eq) := by
  unfold matchesEqual
  split
  · cases ha
  · rw [ha, hb]
    rfl

theorem SameKind.ordered_cases (h : SameKind a b) (ha : a.isOrdered = true) :
    (a.isNumber = true ∧ b.isNumber = true) ∨ (∃ x y, a = .string x ∧ b = .string y) ∨
      (∃ x y, a = .bool x ∧ b = .bool y) ∨ (∃ x y, a = .dateTime x ∧ b = .dateTime y) ∨
      ∃ x y, a = .objectId x ∧ b = .objectId y := by
  rcases h with h | h
  · exact Or.inl h
  · cases a <;> cases b <;> first
      | (cases h; done)
      | (cases ha; done)
      | simp [isNumber]

/-- Where the content is ordered, the values that come out equal are those that match as equal. -/
theorem SameKind.compare_eq_iff (h : SameKind a b) (ha : a.isOrdered = true) (rule : CaseRule) :
    a.compare rule b = .eq ↔ a.matchesEqual rule b = true := by
  rcases h.ordered_cases ha with ⟨ha, hb⟩ | ⟨x, y, rfl, rfl⟩ | ⟨x, y, rfl, rfl⟩ | ⟨x, y, rfl, rfl⟩ |
    ⟨x, y, rfl, rfl⟩
  · rw [compare_of_isNumber ha hb, matchesEqual_of_isNumber ha hb, beq_iff_eq]
  · have hcompare : (string x).compare rule (.string y) = Ord.compare (rule.key x) (rule.key y) := rfl
    have hmatches : (string x).matchesEqual rule (.string y) = (rule.key x == rule.key y) := by
      cases rule <;> rfl
    rw [hcompare, hmatches, beq_iff_eq, Std.LawfulEqOrd.compare_eq_iff_eq]
  · cases rule <;> cases x <;> cases y <;> decide
  · have hcompare : (dateTime x).compare rule (.dateTime y) = Ord.compare x.toInt y.toInt := rfl
    have hmatches : (dateTime x).matchesEqual rule (.dateTime y) = (x == y) := by
      cases rule <;> rfl
    rw [hcompare, hmatches, beq_iff_eq, Int.compare_eq_eq, Int64.toInt_inj]
  · have hcompare : (objectId x).compare rule (.objectId y) =
      Ord.compare x.number.toNat y.number.toNat := rfl
    have hmatches : (objectId x).matchesEqual rule (.objectId y) = (x == y) := by
      cases rule <;> rfl
    rw [hcompare, hmatches, beq_iff_eq, Nat.compare_eq_eq, BitVec.toNat_inj]
    exact ⟨fun h => congrArg ObjectId.mk h, fun h => congrArg ObjectId.number h⟩

theorem SameKind.compare_of_not_isOrdered (h : SameKind a b) (ha : a.isOrdered = false)
    (rule : CaseRule) :
    a.compare rule b = .eq ∧ a.matchesEqual rule b = a.equal b := by
  rcases h with ⟨hnumber, _⟩ | h
  · cases a <;> first
      | (cases hnumber; done)
      | cases ha
  · cases a <;> cases b <;> first
      | (cases h; done)
      | (cases ha; done)
      | (cases rule <;> exact ⟨rfl, rfl⟩)

end Value

namespace Filter

variable {rule : CaseRule} {v t : Value}

theorem equals_of_not_isArray (hv : v.isArray = false) (rule : CaseRule) (t : Value) :
    equals rule (some v) t = v.matchesEqual rule t := by
  cases v <;> first | (cases hv; done) | rfl

theorem ordered_of_not_isArray (hv : v.isArray = false) (rule : CaseRule)
    (accept : Ordering → Bool) (t : Value) :
    ordered rule accept (some v) t = relates rule accept t v := by
  cases v <;> first | (cases hv; done) | rfl

end Filter

variable [Regex.Engine]

/-- One value is less than another of its kind, equal to it or greater, and at most or at least as
great accordingly, if and only if the content of their type is ordered or the two are equal as they
are. Otherwise none of the three relations holds, while both of the weak ones do. -/
theorem comparisons_iff {d : Document} {field : String} {v t : Value}
    (hfield : Filter.startsWithDollar field = false) (hv : d.at? field = some v)
    (harray : v.isArray = false) (hkind : v.SameKind t) (rule : CaseRule) :
    let verdict := fun operator => d.matchesFilter rule [(field, .document [(operator, t)])]
    ∃ less equal greater : Bool,
      verdict "$lt" = .ok less ∧ verdict "$eq" = .ok equal ∧ verdict "$gt" = .ok greater ∧
      verdict "$lte" = .ok !greater ∧ verdict "$gte" = .ok !less ∧
      ([less, equal, greater].count true = 1 ∧ (!greater) = (less || equal) ∧
        (!less) = (greater || equal) ↔ v.isOrdered = true ∨ v.equal t = true) ∧
      (v.isOrdered = false → less = false ∧ greater = false ∧ equal = v.equal t) := by
  intro verdict
  have hverdict (operator : String) (h : Filter.startsWithDollar operator = true) :
      verdict operator =
        Filter.operatorHolds rule (some v) [(operator, t)] operator t := by
    rw [← hv, ← Filter.fieldHolds_operator rule _ h]
    exact Filter.matchesFilter_field rule d hfield _
  have hordered (accept : Ordering → Bool) :
      Filter.ordered rule accept (some v) t = accept (v.compare rule t) := by
    rw [Filter.ordered_of_not_isArray harray, Filter.relates, hkind.comparable, Bool.true_and]
  have hequals : Filter.equals rule (some v) t = v.matchesEqual rule t :=
    Filter.equals_of_not_isArray harray rule t
  refine ⟨v.compare rule t == .lt, v.matchesEqual rule t, v.compare rule t == .gt,
    (hverdict "$lt" (by decide)).trans (congrArg Except.ok (hordered (· == .lt))),
    (hverdict "$eq" (by decide)).trans (congrArg Except.ok hequals),
    (hverdict "$gt" (by decide)).trans (congrArg Except.ok (hordered (· == .gt))),
    (hverdict "$lte" (by decide)).trans (congrArg Except.ok (hordered (· != .gt))),
    (hverdict "$gte" (by decide)).trans (congrArg Except.ok (hordered (· != .lt))), ?_, ?_⟩
  · cases hcontent : v.isOrdered with
    | true =>
      have hagree := hkind.compare_eq_iff hcontent rule
      cases hcompare : v.compare rule t <;> cases hmatches : v.matchesEqual rule t <;> simp_all
    | false =>
      obtain ⟨hcompare, hmatches⟩ := hkind.compare_of_not_isOrdered hcontent rule
      rw [hcompare, hmatches]
      cases v.equal t <;> simp
  · intro hcontent
    obtain ⟨hcompare, hmatches⟩ := hkind.compare_of_not_isOrdered hcontent rule
    rw [hcompare]
    exact ⟨rfl, rfl, hmatches⟩

end

open scoped Regex

/-- From the first relation the theorem gives the other four. -/
theorem comparisons_iff_folded :
    let d : Document := [("a", .document [("b", .string "Xa")])]
    let verdict := fun operator => d.matchesFilter .folded
      [("a.b", .document [(operator, .string "xB")])]
    verdict "$lt" = .ok true ∧ verdict "$eq" = .ok false ∧ verdict "$gt" = .ok false ∧
      verdict "$lte" = .ok true ∧ verdict "$gte" = .ok false := by
  intro d verdict
  have hv : d.at? "a.b" = some (.string "Xa") := rfl
  obtain ⟨less, equal, greater, hless, hequal, hgreater, hatMost, hatLeast, hlaws, _⟩ :=
    comparisons_iff (by decide) hv rfl (Or.inr rfl : (Value.string "Xa").SameKind (.string "xB"))
      .folded
  have htrue : verdict "$lt" = .ok true := rfl
  cases hless.symm.trans htrue
  obtain ⟨hone, -, -⟩ := hlaws.2 (Or.inl rfl)
  have hothers : equal = false ∧ greater = false := by
    cases equal <;> cases greater <;> simp at hone ⊢
  obtain ⟨rfl, rfl⟩ := hothers
  exact ⟨htrue, hequal, hgreater, hatMost, hatLeast⟩

/-- The later time is neither less than the earlier one nor equal to it nor greater, and is both at
most and at least as great. -/
theorem comparisons_of_timestamps :
    let d : Document := [("_id", .int32 1), ("a", .timestamp 5 0)]
    let verdict := fun operator => d.matchesFilter .exact
      [("a", .document [(operator, .timestamp 1 0)])]
    verdict "$lt" = .ok false ∧ verdict "$eq" = .ok false ∧ verdict "$gt" = .ok false ∧
      verdict "$lte" = .ok true ∧ verdict "$gte" = .ok true :=
  ⟨rfl, rfl, rfl, rfl, rfl⟩

end DocStore
