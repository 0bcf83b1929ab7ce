import DocStore.Proofs.Expression.Compilation
import DocStore.Regex.Default
/-!
Expressions that are built from two others. The filter of a conjunction tries the two filters one
after the other, whether or not it extends a conjunction that was there, and so does that of a
disjunction. A disjunction without children constrains nothing on its own, but has no alternative to
offer once it is extended.
-/
namespace DocStore

namespace Expression

open DocStore.Filter

variable {rule : CaseRule} {d : Document} {a b : Expression}

theorem compileChildren_append (children others : List Expression) :
    compileChildren (children ++ others) = compileChildren children ++ compileChildren others := by
  simp only [compileChildren_eq, List.map_append]

variable [Regex.Engine]

theorem matchesFilter_all (rule : CaseRule) (d : Document) (children : List Expression) :
    d.matchesFilter rule (toFilter (.all children)) = matchAll rule d (compileChildren children) := by
  cases children with
  | nil => rfl
  | cons c rest =>
    have hfilter : toFilter (.all (c :: rest)) =
      [("$and", .array (compileChildren (c :: rest)))] := rfl
    rw [hfilter, Document.matchesFilter, matchEntries_singleton,
      matchEntry_and_of_clauses (clauseFault?_compileChildren _ _ _)]

theorem matchesFilter_any (rule : CaseRule) (d : Document) {children : List Expression}
    (h : children ≠ []) :
    d.matchesFilter rule (toFilter (.any children)) = matchAny rule d (compileChildren children) := by
  obtain ⟨c, rest, rfl⟩ := List.exists_cons_of_ne_nil h
  have hfilter : toFilter (.any (c :: rest)) =
    [("$or", .array (compileChildren (c :: rest)))] := rfl
  rw [hfilter, Document.matchesFilter, matchEntries_singleton,
    matchEntry_or_of_clauses (clauseFault?_compileChildren _ _ _)]

/-- A child at the end of a conjunction is tried last. -/
theorem matchAll_concat (children : List Expression) (c : Expression) :
    matchAll rule d (compileChildren (children ++ [c])) =
      andThen (matchAll rule d (compileChildren children)) (d.matchesFilter rule c.toFilter) := by
  rw [compileChildren_append, matchAll_append, compileChildren, compileChildren, matchAll, matchAll,
    andThen_true]
  rfl

theorem matchAny_concat (children : List Expression) (c : Expression) :
    matchAny rule d (compileChildren (children ++ [c])) =
      orElse (matchAny rule d (compileChildren children)) (d.matchesFilter rule c.toFilter) := by
  rw [compileChildren_append, matchAny_append, compileChildren, compileChildren, matchAny, matchAny,
    orElse_false]
  rfl

/-- The expressions that a conjunction joins; any other expression stands for itself. -/
def conjuncts : Expression → List Expression
  | .all children => children
  | e => [e]

def disjuncts : Expression → List Expression
  | .any children => children
  | e => [e]

omit [Regex.Engine] in
theorem and_eq (a b : Expression) : a.and b = .all (a.conjuncts ++ [b]) := by
  cases a <;> rfl

omit [Regex.Engine] in
theorem or_eq (a b : Expression) : a.or b = .any (a.disjuncts ++ [b]) := by
  cases a <;> rfl

theorem matchAll_conjuncts (a : Expression) (rule : CaseRule) (d : Document) :
    matchAll rule d (compileChildren a.conjuncts) = d.matchesFilter rule a.toFilter := by
  cases a with
  | all children => exact (matchesFilter_all rule d children).symm
  | predicate | any => exact andThen_true _

theorem matchAny_disjuncts (ha : a ≠ .any []) (rule : CaseRule) (d : Document) :
    matchAny rule d (compileChildren a.disjuncts) = d.matchesFilter rule a.toFilter := by
  cases a with
  | any children => exact (matchesFilter_any rule d fun h => ha (congrArg any h)).symm
  | predicate | all => exact orElse_false _

theorem matchesFilter_and (a b : Expression) (rule : CaseRule) (d : Document) :
    d.matchesFilter rule (a.and b).toFilter =
      andThen (d.matchesFilter rule a.toFilter) (d.matchesFilter rule b.toFilter) := by
  rw [and_eq, matchesFilter_all, matchAll_concat, matchAll_conjuncts]

theorem matchesFilter_or (a b : Expression) (rule : CaseRule) (d : Document) :
    d.matchesFilter rule (a.or b).toFilter =
      orElse (matchAny rule d (compileChildren a.disjuncts)) (d.matchesFilter rule b.toFilter) := by
  rw [or_eq, matchesFilter_any rule d (List.concat_ne_nil b a.disjuncts), matchAny_concat]

/-- Where both filters give a verdict, the filter of a conjunction holds if both hold, and that of a
disjunction if one of them does. Only a disjunction without children gives way to what extends it.
Without a verdict of one filter, the first of the two is tried first, and ends the work if it decides
the matter. -/
theorem matchesFilter_builders (a b : Expression) (rule : CaseRule) (d : Document) :
    let verdict := fun e : Expression => d.matchesFilter rule e.toFilter
    (verdict (a.and b) = andThen (verdict a) (verdict b) ∧
      (a ≠ .any [] → verdict (a.or b) = orElse (verdict a) (verdict b)) ∧
      (a = .any [] → verdict (a.or b) = verdict b)) ∧
    ∀ x y, verdict a = .ok x → verdict b = .ok y →
      verdict (a.and b) = .ok (x && y) ∧
      (a ≠ .any [] → verdict (a.or b) = .ok (x || y)) ∧
      (a = .any [] → verdict (a.or b) = .ok y) := by
  intro verdict
  have hand : verdict (a.and b) = andThen (verdict a) (verdict b) := matchesFilter_and a b rule d
  have hor (ha : a ≠ .any []) : verdict (a.or b) = orElse (verdict a) (verdict b) := by
    rw [← show matchAny rule d _ = verdict a from matchAny_disjuncts ha rule d]
    exact matchesFilter_or a b rule d
  have hextended (ha : a = .any []) : verdict (a.or b) = verdict b := by
    rw [ha]
    exact matchesFilter_or (.any []) b rule d
  refine ⟨⟨hand, hor, hextended⟩, fun x y hx hy => ⟨?_, fun ha => ?_, fun ha => ?_⟩⟩
  · rw [hand, hx, hy, andThen_ok]
  · rw [hor ha, hx, hy, orElse_ok]
  · rw [hextended ha, hy]

end Expression

open scoped Regex

namespace Expression

open DocStore.Filter

/-- A disjunction without children offers an alternative where it extends another expression. -/
theorem matchesFilter_builders_empty :
    let a : Expression := .equal "k" (.string "x")
    let d : Document := [("_id", .string "a")]
    d.matchesFilter .exact (a.or (.any [])).toFilter = .ok true := by
  intro a d
  obtain ⟨-, hverdicts⟩ := matchesFilter_builders a (.any []) .exact d
  obtain ⟨-, hor, -⟩ := hverdicts false true rfl rfl
  exact hor nofun

/-- Both filters give a verdict, the first one holds, and the disjunction does not. -/
theorem extended_empty_disjunction :
    let a : Expression := .any []
    let b : Expression := .equal "k" (.string "x")
    let d : Document := [("_id", .string "a")]
    d.matchesFilter .exact a.toFilter = .ok true ∧ d.matchesFilter .exact b.toFilter = .ok false ∧
      d.matchesFilter .exact (a.or b).toFilter = .ok false := ⟨rfl, rfl, rfl⟩

end Expression

end DocStore
