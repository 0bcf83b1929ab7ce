import DocStore.Proofs.Expression.Builders
import DocStore.Regex.Default
/-!
Membership as an abbreviation. An operator that takes a list is tried in one go over the list, and the
connective that it abbreviates on one filter after another. Both come to the same verdict, and never to
an error.
-/
namespace DocStore

namespace Expression

open DocStore.Filter

variable {field : String} {rule : CaseRule} {d : Document}
variable [Regex.Engine]

/-- A predicate on a path is the operator of its condition, tried on what stands there. -/
theorem matchesFilter_predicate (hfield : startsWithDollar field = false) (rule : CaseRule)
    (d : Document) (operator : Operator) (operand : Value) {key : String} {argument : Value}
    (hcondition : operator.condition operand = [(key, argument)])
    (hkey : startsWithDollar key = true) :
    d.matchesFilter rule (toFilter (.predicate field operator operand)) =
      operatorHolds rule (d.at? field) [(key, argument)] key argument := by
  have hne : field ≠ fullTextField := ne_of_startsWithDollar hfield (by decide)
  have hfilter : toFilter (.predicate field operator operand) =
    [(field, .document (operator.condition operand))] := if_neg hne
  rw [hfilter, matchesFilter_field rule d hfield, hcondition, fieldHolds_operator rule _ hkey]

theorem matchesFilter_equal (hfield : startsWithDollar field = false) (rule : CaseRule)
    (d : Document) (v : Value) :
    d.matchesFilter rule (toFilter (.equal field v)) = .ok (equals rule (d.at? field) v) := by
  have hequal := matchesFilter_predicate hfield rule d .equal v rfl (by decide)
  exact hequal

theorem matchAny_equal (hfield : startsWithDollar field = false) (rule : CaseRule) (d : Document)
    (vs : List Value) :
    matchAny rule d (compileChildren (vs.map (.equal field))) =
      .ok (memberOf rule (d.at? field) vs) := by
  induction vs with
  | nil => rfl
  | cons v vs ih =>
    have hfirst := matchesFilter_equal hfield rule d v
    rw [List.map_cons, compileChildren, matchAny, ih]
    exact (congrArg (orElse · _) hfirst).trans (orElse_ok _ _)

theorem matchAll_equal (hfield : startsWithDollar field = false) (rule : CaseRule) (d : Document)
    (vs : List Value) :
    matchAll rule d (compileChildren (vs.map (.equal field))) =
      .ok (vs.all (equals rule (d.at? field))) := by
  induction vs with
  | nil => rfl
  | cons v vs ih =>
    have hfirst := matchesFilter_equal hfield rule d v
    rw [List.map_cons, compileChildren, matchAll, ih]
    exact (congrArg (andThen · _) hfirst).trans (andThen_ok _ _)

/-- Inequality is the contrary of equality, and exclusion that of membership. A member is what equals
one value or another, and all values are contained where each of them is equal. All of these filters
give a verdict. -/
theorem memberships_agree (hfield : startsWithDollar field = false) (v : Value) {vs : List Value}
    (hvs : vs ≠ []) (rule : CaseRule) (d : Document) :
    let verdict := fun e : Expression => d.matchesFilter rule e.toFilter
    (∃ b, verdict (.equal field v) = .ok b ∧ verdict (.notEqual field v) = .ok !b) ∧
    (∃ b, verdict (.isIn field vs) = .ok b ∧ verdict (.notIn field vs) = .ok !b ∧
      verdict (.any (vs.map (.equal field))) = .ok b) ∧
    ∃ b, verdict (.inAll field vs) = .ok b ∧ verdict (.all (vs.map (.equal field))) = .ok b := by
  intro verdict
  have hpredicate := matchesFilter_predicate hfield rule d
  have hequal := hpredicate .equal v rfl (by decide)
  have hnotEqual := hpredicate .notEqual v rfl (by decide)
  have hin := hpredicate .isIn (.array vs) rfl (by decide)
  have hnotIn := hpredicate .notIn (.array vs) rfl (by decide)
  have hinAll := hpredicate .inAll (.array vs) rfl (by decide)
  have hany : verdict (.any (vs.map (.equal field))) = .ok (memberOf rule (d.at? field) vs) := by
    rw [← matchAny_equal hfield]
    exact matchesFilter_any rule d (by simpa using hvs)
  have hall : verdict (.all (vs.map (.equal field))) = .ok (containsAll rule (d.at? field) vs) := by
    have hnonempty : vs.isEmpty = false := List.isEmpty_eq_false_iff.2 hvs
    rw [containsAll, hnonempty, Bool.not_false, Bool.true_and, ← matchAll_equal hfield]
    exact matchesFilter_all rule d _
  exact ⟨⟨_, hequal, hnotEqual⟩, ⟨_, hin, hnotIn, hany⟩, ⟨_, hinAll, hall⟩⟩

end Expression

open scoped Regex

namespace Expression

open DocStore.Filter

/-- One of the values is found in the array and the other is not, though its text is that of an
operator. -/
theorem memberships_agree_tags :
    let d : Document := [("t", .array [.string "Red", .array [], .null])]
    let vs : List Value := [.string "rED", .document [("$ne", .null)]]
    let verdict := fun e : Expression => d.matchesFilter .folded e.toFilter
    verdict (.any (vs.map (.equal "t"))) = .ok true ∧ verdict (.isIn "t" vs) = .ok true ∧
      verdict (.notIn "t" vs) = .ok false ∧ verdict (.inAll "t" vs) = .ok false ∧
      verdict (.all (vs.map (.equal "t"))) = .ok false := by
  intro d vs verdict
  have hfield : startsWithDollar "t" = false := by decide
  have hvs : vs ≠ [] := List.cons_ne_nil _ _
  obtain ⟨-, ⟨b, hin, hnotIn, hany⟩, ⟨c, hcontained, hall⟩⟩ :=
    memberships_agree hfield .null hvs .folded d
  have hmember : verdict (.isIn "t" vs) = .ok true := rfl
  have hcontains : verdict (.inAll "t" vs) = .ok false := rfl
  cases hin.symm.trans hmember
  cases hcontained.symm.trans hcontains
  exact ⟨hany, hin, hnotIn, hcontained, hall⟩

end Expression

end DocStore
