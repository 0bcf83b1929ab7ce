import DocStore.Proofs.Expression.Relations
import DocStore.Proofs.Filter.Conditions
import DocStore.Regex.Default
/-!
The filter of an expression says what the expression says. Neither a connective without children nor
the order in which a filter is worked through makes a difference, and no well-formed expression
comes to an error.
-/
namespace DocStore

namespace Filter

/-- The verdict is no error, and is whether the proposition holds. -/
def Decides (verdict : Verdict) (p : Prop) : Prop := ∃ b, verdict = .ok b ∧ (b = true ↔ p)

variable {first second : Verdict} {p q : Prop}

theorem decides_ok {b : Bool} (h : b = true ↔ p) : Decides (.ok b) p := ⟨b, rfl, h⟩

theorem decides_true (hp : p) : Decides (.ok true) p := decides_ok ⟨fun _ => hp, fun _ => rfl⟩

theorem Decides.congr (h : Decides first p) (hpq : p ↔ q) : Decides first q := by
  obtain ⟨b, hb, hp⟩ := h
  exact ⟨b, hb, hp.trans hpq⟩

theorem Decides.andThen (h : Decides first p) (h' : Decides second q) :
    Decides (andThen first second) (p ∧ q) := by
  obtain ⟨b, rfl, hp⟩ := h
  obtain ⟨c, rfl, hq⟩ := h'
  cases b with
  | false => exact decides_ok (by simpa using fun h => absurd (hp.2 h) (by simp))
  | true => exact decides_ok (by simp [hq, hp.1 rfl])

theorem Decides.orElse (h : Decides first p) (h' : Decides second q) :
    Decides (orElse first second) (p ∨ q) := by
  obtain ⟨b, rfl, hp⟩ := h
  obtain ⟨c, rfl, hq⟩ := h'
  cases b with
  | false =>
    have hnot : ¬p := fun h => absurd (hp.2 h) (by simp)
    exact decides_ok (by simp [hq, hnot])
  | true => exact decides_ok (by simp [hp.1 rfl])

theorem Decides.andThen_true (h : Decides first p) : Decides (Filter.andThen first (.ok true)) p :=
  (h.andThen (decides_true trivial)).congr (and_iff_left trivial)

variable {rule : CaseRule} {value : Option Value}
variable [Regex.Engine]

theorem decides_single {operator : String} {argument : Value}
    (hoperator : startsWithDollar operator = true)
    (h : Decides (operatorHolds rule value [(operator, argument)] operator argument) p) :
    Decides (fieldHolds rule value (.document [(operator, argument)])) p := by
  rwa [fieldHolds_operator rule value hoperator]

theorem fieldHolds_pattern (rule : CaseRule) (value : Option Value) (pattern : String) :
    fieldHolds rule value (.document [("$regex", .string pattern), ("$options", .string "i")]) =
      matchesPattern value (.string pattern) caselessFlags := by
  have hdollar : startsWithDollar "$regex" = true := by decide
  have hflags : patternFlags [("$regex", .string pattern), ("$options", .string "i")] =
    caselessFlags := rfl
  rw [fieldHolds, if_pos hdollar, ← hflags]
  simp only [operatorsHold, operatorHolds]
  rcases matchesPattern value (.string pattern)
    (patternFlags [("$regex", .string pattern), ("$options", .string "i")]) with e | (_ | _) <;> rfl

theorem decides_pattern {pattern : String} (h : Operator.IsPattern pattern) :
    Decides (fieldHolds rule value
        (.document [("$regex", .string pattern), ("$options", .string "i")]))
      (Fits pattern value) := by
  obtain ⟨regex, hregex⟩ := h
  rw [fieldHolds_pattern]
  exact matchesPattern_of_read hregex

/-- The condition of an operator decides the relation that the operator asks for. -/
theorem decides_condition {operator : Operator} {operand : Value}
    (h : operator.Accepts operand) :
    Decides (fieldHolds rule value (.document (operator.condition operand)))
      (operator.Relates rule value operand) := by
  cases operator with
  | equal => exact decides_single (by decide) (decides_ok equals_iff)
  | notEqual =>
    apply decides_single (by decide)
    refine decides_ok ?_
    rw [Bool.not_eq_true']
    exact equals_eq_false_iff
  | lessThan => exact decides_single (by decide) (decides_ok (ordered_beq_iff .lt))
  | lessOrEqual => exact decides_single (by decide) (decides_ok (ordered_bne_iff .gt))
  | greaterThan => exact decides_single (by decide) (decides_ok (ordered_beq_iff .gt))
  | greaterOrEqual => exact decides_single (by decide) (decides_ok (ordered_bne_iff .lt))
  | isIn =>
    obtain ⟨targets, rfl⟩ := h
    exact decides_single (by decide) (decides_ok memberOf_iff)
  | notIn =>
    obtain ⟨targets, rfl⟩ := h
    apply decides_single (by decide)
    refine decides_ok ?_
    rw [Bool.not_eq_true', ← Bool.not_eq_true, memberOf_iff]
    simp [Operator.Relates]
  | inAll =>
    obtain ⟨targets, rfl⟩ := h
    exact decides_single (by decide) (decides_ok containsAll_iff)
  | present =>
    obtain ⟨expected, rfl⟩ := h
    apply decides_single (by decide)
    refine decides_ok ?_
    cases value <;> cases expected <;> simp [Operator.Relates, Value.truthy]
  | beginsWith =>
    obtain ⟨s, rfl, hpattern⟩ := h
    exact decides_pattern hpattern
  | contains =>
    obtain ⟨s, rfl, hpattern⟩ := h
    exact decides_pattern hpattern
  | endsWith =>
    obtain ⟨s, rfl, hpattern⟩ := h
    exact decides_pattern hpattern
  | geoWithin => cases h
  | geoIntersects => cases h

theorem decides_fullText (rule : CaseRule) (d : Document) (search : String) :
    Decides (matchEntries rule d [("$text", .document [("$search", .string search)])])
      (Mentions d search) := by
  have hentry : matchEntry rule d "$text" (.document [("$search", .string search)]) =
      .ok (searchText d search) := by
    rw [matchEntry_of_not_isConnective (by decide), if_pos rfl]
    rfl
  rw [matchEntries, matchEntries, hentry]
  exact (decides_ok (searchText_iff d search)).andThen_true

theorem decides_field (rule : CaseRule) (d : Document) {field : String} {operator : Operator}
    {operand : Value} (hfield : startsWithDollar field = false)
    (hoperand : operator.Accepts operand) :
    Decides (matchEntries rule d [(field, .document (operator.condition operand))])
      (operator.Relates rule (d.at? field) operand) := by
  rw [matchEntries, matchEntries, matchEntry_field rule d hfield]
  exact (decides_condition hoperand).andThen_true

end Filter

namespace Expression

open DocStore.Filter

variable {rule : CaseRule} {d : Document} {children : List Expression}

theorem compileChildren_eq (children : List Expression) :
    compileChildren children = children.map fun c => .document c.toFilter := by
  induction children with
  | nil => rfl
  | cons c rest ih => rw [compileChildren, ih, List.map_cons, toFilter]

theorem clauseFault?_compileChildren (key : String) (c : Expression) (rest : List Expression) :
    clauseFault? key (.array (compileChildren (c :: rest))) = none := by
  have hdocuments : (compileChildren (c :: rest)).all isDocument = true := by
    rw [compileChildren_eq, List.all_map]
    exact List.all_eq_true.2 fun _ _ => rfl
  rw [compileChildren] at hdocuments ⊢
  exact if_pos hdocuments

variable [Regex.Engine]

theorem decides_matchAll
    (h : ∀ c ∈ children, Decides (d.matchesFilter rule c.toFilter) (c.Holds rule d)) :
    Decides (matchAll rule d (compileChildren children)) (∀ c ∈ children, c.Holds rule d) := by
  induction children with
  | nil => exact decides_true (by simp)
  | cons c rest ih =>
    rw [compileChildren, matchAll]
    have hrest := ih fun x hx => h x (List.mem_cons_of_mem _ hx)
    exact ((h c List.mem_cons_self).andThen hrest).congr List.forall_mem_cons.symm

theorem decides_matchAny
    (h : ∀ c ∈ children, Decides (d.matchesFilter rule c.toFilter) (c.Holds rule d)) :
    Decides (matchAny rule d (compileChildren children)) (∃ c ∈ children, c.Holds rule d) := by
  induction children with
  | nil => exact decides_ok (by simp)
  | cons c rest ih =>
    rw [compileChildren, matchAny]
    have hrest := ih fun x hx => h x (List.mem_cons_of_mem _ hx)
    refine ((h c List.mem_cons_self).orElse hrest).congr ?_
    simp

/-- Matching the filter of a well-formed expression is deciding whether the expression holds. -/
theorem matchesFilter_toFilter {e : Expression} (h : e.WellFormed) (rule : CaseRule)
    (d : Document) :
    ∃ b, d.matchesFilter rule e.toFilter = .ok b ∧ (b = true ↔ e.Holds rule d) := by
  change Decides (d.matchesFilter rule e.toFilter) (e.Holds rule d)
  induction h with
  | fullText operator search =>
    exact (decides_fullText rule d search).congr holds_fullText_iff.symm
  | @predicate field operator operand hfield hoperand =>
    have hne : field ≠ fullTextField := by
      rintro rfl
      exact absurd hfield (by decide)
    have hfilter : toFilter (.predicate field operator operand) =
        [(field, .document (operator.condition operand))] := if_neg hne
    rw [hfilter]
    exact (decides_field rule d hfield hoperand).congr (holds_predicate_iff hne).symm
  | @all children _ ih =>
    refine Decides.congr ?_ holds_all_iff.symm
    cases children with
    | nil => exact decides_true (by simp)
    | cons c rest =>
      have hentry : matchEntry rule d "$and" (.array (compileChildren (c :: rest))) =
          matchAll rule d (compileChildren (c :: rest)) := by
        rw [matchEntry, if_pos rfl, clauseFault?_compileChildren]
      have hfilter : toFilter (.all (c :: rest)) =
        [("$and", .array (compileChildren (c :: rest)))] := rfl
      rw [hfilter, Document.matchesFilter, matchEntries, matchEntries, hentry]
      exact (decides_matchAll ih).andThen_true
  | @any children _ ih =>
    refine Decides.congr ?_ holds_any_iff.symm
    cases children with
    | nil => exact decides_true (Or.inl rfl)
    | cons c rest =>
      have hentry : matchEntry rule d "$or" (.array (compileChildren (c :: rest))) =
          matchAny rule d (compileChildren (c :: rest)) := by
        rw [matchEntry, if_neg (by decide), if_pos rfl, clauseFault?_compileChildren]
      have hfilter : toFilter (.any (c :: rest)) =
        [("$or", .array (compileChildren (c :: rest)))] := rfl
      rw [hfilter, Document.matchesFilter, matchEntries, matchEntries, hentry]
      refine (decides_matchAny ih).andThen_true.congr ?_
      simp

end Expression

open scoped Regex

namespace Expression

open DocStore.Filter

/-- A condition that looks like another operator stays an operand, and the empty disjunction inside
the conjunction constrains nothing. -/
theorem matchesFilter_toFilter_nested :
    let e : Expression := .all [.any [],
      .any [.equal "a.b" (.document [("$ne", .null)]), .beginsWith "c" "x"], .fullText "y z"]
    let d : Document := [("c", .array [.string "Xy", .null])]
    e.WellFormed ∧ d.matchesFilter .folded e.toFilter = .ok true ∧ e.Holds .folded d := by
  intro e d
  have hpattern : Operator.IsPattern ("^" ++ "x") := ⟨_, rfl⟩
  have hwellFormed : e.WellFormed := by
    refine .all fun c hc => ?_
    simp only [List.mem_cons, List.not_mem_nil, or_false] at hc
    rcases hc with rfl | rfl | rfl
    · exact .any nofun
    · refine .any fun c hc => ?_
      simp only [List.mem_cons, List.not_mem_nil, or_false] at hc
      rcases hc with rfl | rfl
      · exact .predicate (by decide) trivial
      · exact .predicate (by decide) ⟨"x", rfl, hpattern⟩
    · exact .fullText .equal "y z"
  have hmatches : d.matchesFilter .folded e.toFilter = .ok true := rfl
  obtain ⟨b, hb, hiff⟩ := matchesFilter_toFilter hwellFormed .folded d
  rw [hmatches] at hb
  cases hb
  exact ⟨hwellFormed, hmatches, hiff.1 rfl⟩

end Expression

end DocStore
