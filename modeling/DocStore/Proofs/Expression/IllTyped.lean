import DocStore.Proofs.Expression.Builders
import DocStore.Regex.Default
import Mathlib.Logic.Relation
/-!
Predicates whose operand has the wrong type. Their condition is the empty document, and a filter
reads a condition without operators as a value to be equalled. So such a predicate asks for an empty
document at its field: where there is one it constrains nothing, and anywhere else it never holds.
-/
namespace DocStore

namespace Operator

/-- Operands of a type for which the operator has no condition. -/
def isIllTyped : Operator → Value → Bool
  | .present, .bool _ => false
  | .present, _ => true
  | .beginsWith, .string _ | .contains, .string _ | .endsWith, .string _ => false
  | .beginsWith, _ | .contains, _ | .endsWith, _ => true
  | _, _ => false

theorem condition_of_isIllTyped {operator : Operator} {operand : Value}
    (h : operator.isIllTyped operand = true) : operator.condition operand = [] := by
  cases operator <;> cases operand <;> first | rfl | cases h

end Operator

theorem Value.matchesEqual_empty (rule : CaseRule) (v : Value) :
    v.matchesEqual rule (.document []) = true ↔ v = .document [] := by
  cases v with
  | document fields =>
    cases fields <;> cases rule <;> simp [matchesEqual, isNumber, equal, equalFields]
  | _ => cases rule <;> simp [matchesEqual, isNumber, equal]

/-- An empty document stands at the field, or among the items there. -/
def Document.EmptyAt (d : Document) (field : String) : Prop :=
  ∃ v, d.at? field = some v ∧ .document [] ∈ v.parts

namespace Filter

/-- The second verdict is the first one, if that is no error. -/
def Extends (first second : Verdict) : Prop := ∀ b, first = .ok b → second = .ok b

variable {u u' v v' : Verdict}

theorem Extends.andThen (hu : Extends u u') (hv : Extends v v') :
    Extends (andThen u v) (andThen u' v') := by
  intro b hb
  rcases u with e | (_ | _)
  · cases hb
  · rw [hu false rfl]
    exact hb
  · rw [hu true rfl]
    exact hv b hb

theorem Extends.orElse (hu : Extends u u') (hv : Extends v v') :
    Extends (orElse u v) (orElse u' v') := by
  intro b hb
  rcases u with e | (_ | _)
  · cases hb
  · rw [hu false rfl]
    exact hv b hb
  · rw [hu true rfl]
    exact hb

theorem extends_refl (v : Verdict) : Extends v v := fun _ h => h

end Filter

namespace Expression

open DocStore.Filter

variable {rule : CaseRule} {d : Document} {field : String} {operator : Operator} {operand : Value}
  {fields : String → Prop} {e e' : Expression}

theorem toFilter_of_isIllTyped (hfield : field ≠ fullTextField)
    (h : operator.isIllTyped operand = true) :
    toFilter (.predicate field operator operand) = [(field, .document [])] := by
  have hfilter : toFilter (.predicate field operator operand) =
    [(field, .document (operator.condition operand))] := if_neg hfield
  rw [hfilter, Operator.condition_of_isIllTyped h]

variable [Regex.Engine]

/-- An ill-typed predicate asks for an empty document. -/
theorem decides_of_isIllTyped (hfield : startsWithDollar field = false)
    (h : operator.isIllTyped operand = true) (rule : CaseRule) (d : Document) :
    Decides (d.matchesFilter rule (toFilter (.predicate field operator operand)))
      (d.EmptyAt field) := by
  have hne : field ≠ fullTextField := ne_of_startsWithDollar hfield (by decide)
  rw [toFilter_of_isIllTyped hne h, matchesFilter_field rule d hfield]
  refine decides_ok (equals_iff.trans ?_)
  unfold Equals Document.EmptyAt
  cases d.at? field with
  | none => simp
  | some v => simp [Value.isArray, Value.matchesEqual_empty]

/-- A field that begins with a dollar sign is no path, and the empty document is no operand of the
connectives or of the search for words. -/
theorem error_of_isIllTyped (hfield : startsWithDollar field = true) (hne : field ≠ fullTextField)
    (h : operator.isIllTyped operand = true) (rule : CaseRule) (d : Document) :
    ∃ fault, d.matchesFilter rule (toFilter (.predicate field operator operand)) =
      .error fault := by
  have hentry : ∃ fault, matchEntry rule d field (.document []) = .error fault := by
    by_cases hconnective : isConnective field = true
    · rcases isConnective_iff.1 hconnective with rfl | rfl
      · exact ⟨_, rfl⟩
      · exact ⟨_, rfl⟩
    rw [matchEntry_of_not_isConnective hconnective, if_pos hfield]
    by_cases htext : field = "$text"
    · subst htext
      exact ⟨_, rfl⟩
    · exact ⟨_, if_neg htext⟩
  obtain ⟨fault, hfault⟩ := hentry
  refine ⟨fault, ?_⟩
  rw [toFilter_of_isIllTyped hne h, Document.matchesFilter, matchEntries, hfault]
  rfl

/-- An ill-typed predicate on one of the fields, at any depth, gives way to the expression that
constrains nothing. -/
inductive Drops (fields : String → Prop) : Expression → Expression → Prop where
  | predicate {field : String} {operator : Operator} {operand : Value} (hfield : fields field)
    (hne : field ≠ fullTextField) (h : operator.isIllTyped operand = true) :
    Drops fields (.predicate field operator operand) everything
  | all {before after : List Expression} {e e' : Expression} (h : Drops fields e e') :
    Drops fields (.all (before ++ e :: after)) (.all (before ++ e' :: after))
  | any {before after : List Expression} {e e' : Expression} (h : Drops fields e e') :
    Drops fields (.any (before ++ e :: after)) (.any (before ++ e' :: after))

theorem extends_matchAll
    (h : Extends (d.matchesFilter rule e.toFilter) (d.matchesFilter rule e'.toFilter))
    (before after : List Expression) :
    Extends (matchAll rule d (compileChildren (before ++ e :: after)))
      (matchAll rule d (compileChildren (before ++ e' :: after))) := by
  induction before with
  | nil => exact h.andThen (extends_refl _)
  | cons c rest ih => exact (extends_refl (d.matchesFilter rule c.toFilter)).andThen ih

theorem extends_matchAny
    (h : Extends (d.matchesFilter rule e.toFilter) (d.matchesFilter rule e'.toFilter))
    (before after : List Expression) :
    Extends (matchAny rule d (compileChildren (before ++ e :: after)))
      (matchAny rule d (compileChildren (before ++ e' :: after))) := by
  induction before with
  | nil => exact h.orElse (extends_refl _)
  | cons c rest ih => exact (extends_refl (d.matchesFilter rule c.toFilter)).orElse ih

/-- Dropping a predicate where an empty document stands at its field, or where it is refused if it
is tried at all, leaves every verdict as it is. -/
theorem Drops.extends (h : Drops fields e e')
    (hfields : ∀ field, fields field → field ≠ fullTextField →
      startsWithDollar field = true ∨ d.EmptyAt field) (rule : CaseRule) :
    Extends (d.matchesFilter rule e.toFilter) (d.matchesFilter rule e'.toFilter) := by
  induction h with
  | @predicate field operator operand hfield hne h =>
    intro b hb
    cases hdollar : startsWithDollar field with
    | true =>
      obtain ⟨fault, hfault⟩ := error_of_isIllTyped hdollar hne h rule d
      rw [hfault] at hb
      cases hb
    | false =>
      obtain ⟨b', hb', hempty⟩ := decides_of_isIllTyped hdollar h rule d
      have htrue : b' = true :=
        hempty.2 ((hfields field hfield hne).resolve_left (by simp [hdollar]))
      cases hb.symm.trans hb'
      rw [htrue]
      rfl
  | @all before after e e' _ ih =>
    rw [matchesFilter_all, matchesFilter_all]
    exact extends_matchAll ih before after
  | @any before after e e' _ ih =>
    rw [matchesFilter_any rule d (by simp), matchesFilter_any rule d (by simp)]
    exact extends_matchAny ih before after

/-- An ill-typed predicate on a path asks for an empty document there. Ill-typed predicates on the
given fields can be dropped from every expression that comes to a verdict, one or more of them at
any depths, if and only if there is an empty document at each of these fields that is a path. -/
theorem illTyped_droppable_iff (rule : CaseRule) (d : Document) (fields : String → Prop) :
    let verdict := fun e : Expression => d.matchesFilter rule e.toFilter
    (∀ (field : String) (operator : Operator) (operand : Value),
      startsWithDollar field = false → operator.isIllTyped operand = true →
      ∃ b, verdict (.predicate field operator operand) = .ok b ∧ (b = true ↔ d.EmptyAt field)) ∧
    ((∀ e e', Relation.ReflTransGen (Drops fields) e e' →
        ∀ b, verdict e = .ok b → verdict e' = .ok b) ↔
      ∀ field, fields field → startsWithDollar field = false → d.EmptyAt field) := by
  intro verdict
  refine ⟨fun field operator operand hfield h => decides_of_isIllTyped hfield h rule d, ?_⟩
  constructor
  · intro hsame field hfield hpath
    have hne : field ≠ fullTextField := ne_of_startsWithDollar hpath (by decide)
    have hdrop : Drops fields (.predicate field .present .null) everything :=
      .predicate hfield hne rfl
    have hill : Operator.present.isIllTyped .null = true := rfl
    obtain ⟨b, hb, hempty⟩ := decides_of_isIllTyped hpath hill rule d
    have hall : verdict everything = .ok b := hsame _ _ (.single hdrop) b hb
    cases hall
    exact hempty.1 rfl
  · intro hfields e e' hdrops
    induction hdrops with
    | refl => exact fun b hb => hb
    | tail _ hdrop ih =>
      intro b hb
      refine hdrop.extends (fun field hfield _ => ?_) rule b (ih b hb)
      cases hdollar : startsWithDollar field with
      | true => exact Or.inl rfl
      | false => exact Or.inr (hfields field hfield hdollar)

end Expression

open scoped Regex

namespace Expression

open DocStore.Filter

/-- Where an empty document is among the items, an ill-typed predicate holds. -/
theorem illTyped_droppable_iff_emptyItem :
    let d : Document := [("x", .array [.int32 5, .document []])]
    let p : Expression := .predicate "x" .contains (.int32 5)
    Operator.contains.isIllTyped (.int32 5) = true ∧
      d.matchesFilter .exact p.toFilter = .ok true := by
  intro d p
  have hempty : d.EmptyAt "x" := ⟨.array [.int32 5, .document []], rfl, by simp [Value.parts]⟩
  obtain ⟨hdecides, -⟩ := illTyped_droppable_iff .exact d fun _ => False
  obtain ⟨b, hb, hholds⟩ := hdecides "x" .contains (.int32 5) (by decide) rfl
  exact ⟨rfl, hb.trans (congrArg Except.ok (hholds.2 hempty))⟩

/-- Beside a number an ill-typed predicate rules the document out, and without it the connectives
let the document in. -/
theorem illTyped_not_droppable :
    let d : Document := [("x", .int32 5)]
    let p : Expression := .predicate "x" .contains (.int32 5)
    let verdict := fun e : Expression => d.matchesFilter .exact e.toFilter
    Operator.contains.isIllTyped (.int32 5) = true ∧
      verdict p = .ok false ∧ verdict everything = .ok true ∧
      verdict (.any [.all [p]]) = .ok false ∧ verdict (.any [.all [everything]]) = .ok true := by
  intro d p verdict
  have hunder (e : Expression) {b : Bool} (h : verdict e = .ok b) :
      verdict (.any [.all [e]]) = .ok b := by
    have hall : verdict (.all [e]) = .ok b := by
      rw [show verdict (.all [e]) = _ from matchesFilter_all .exact d [e]]
      exact (andThen_true _).trans h
    rw [show verdict (.any [.all [e]]) = _ from matchesFilter_any .exact d (List.cons_ne_nil _ _)]
    exact (orElse_false _).trans hall
  have hdrop : verdict p = .ok false := rfl
  have hkeep : verdict everything = .ok true := rfl
  exact ⟨rfl, hdrop, hkeep, hunder p hdrop, hunder everything hkeep⟩

end Expression

end DocStore
