import DocStore.Proofs.Filter.Paths
/-!
Verdicts of several parts, and filters of one entry. A field is tried on what stands at its path, and a
condition of one operator is that operator. Entries and clauses that follow others are tried after them.
-/
namespace DocStore

namespace Filter

variable {rule : CaseRule} {d : Document} {field operator : String} {condition argument : Value}
  {clauses : List Value}

theorem andThen_true (v : Verdict) : andThen v (.ok true) = v := by
  rcases v with e | (_ | _) <;> rfl

theorem andThen_assoc (u v w : Verdict) : andThen (andThen u v) w = andThen u (andThen v w) := by
  rcases u with e | (_ | _) <;> rfl

theorem orElse_false (v : Verdict) : orElse v (.ok false) = v := by
  rcases v with e | (_ | _) <;> rfl

theorem orElse_assoc (u v w : Verdict) : orElse (orElse u v) w = orElse u (orElse v w) := by
  rcases u with e | (_ | _) <;> rfl

theorem andThen_ok (x y : Bool) : andThen (.ok x) (.ok y) = .ok (x && y) := by
  cases x <;> rfl

theorem orElse_ok (x y : Bool) : orElse (.ok x) (.ok y) = .ok (x || y) := by
  cases x <;> rfl

variable [Regex.Engine]

/-- A filter of one entry is that entry. -/
theorem matchEntries_singleton (rule : CaseRule) (d : Document) (key : String) (value : Value) :
    matchEntries rule d [(key, value)] = matchEntry rule d key value := andThen_true _

theorem matchEntries_append (rule : CaseRule) (d : Document) (f g : List (String × Value)) :
    matchEntries rule d (f ++ g) = andThen (matchEntries rule d f) (matchEntries rule d g) := by
  induction f with
  | nil => rfl
  | cons entry rest ih => rw [List.cons_append, matchEntries, matchEntries, ih, andThen_assoc]

theorem matchAll_append (rule : CaseRule) (d : Document) (clauses others : List Value) :
    matchAll rule d (clauses ++ others) =
      andThen (matchAll rule d clauses) (matchAll rule d others) := by
  induction clauses with
  | nil => rfl
  | cons clause rest ih =>
    cases clause with
    | document filter => rw [List.cons_append, matchAll, matchAll, ih, andThen_assoc]
    | _ => exact ih

theorem matchAny_append (rule : CaseRule) (d : Document) (clauses others : List Value) :
    matchAny rule d (clauses ++ others) =
      orElse (matchAny rule d clauses) (matchAny rule d others) := by
  induction clauses with
  | nil => rfl
  | cons clause rest ih =>
    cases clause with
    | document filter => rw [List.cons_append, matchAny, matchAny, ih, orElse_assoc]
    | _ => exact ih

theorem matchEntry_and_of_clauses (hclauses : clauseFault? "$and" (.array clauses) = none) :
    matchEntry rule d "$and" (.array clauses) = matchAll rule d clauses := by
  rw [matchEntry_and, hclauses, Option.elim_none]

theorem matchEntry_or_of_clauses (hclauses : clauseFault? "$or" (.array clauses) = none) :
    matchEntry rule d "$or" (.array clauses) = matchAny rule d clauses := by
  rw [matchEntry_or, hclauses, Option.elim_none]

omit [Regex.Engine] in
theorem ne_of_startsWithDollar {key : String} (hfield : startsWithDollar field = false)
    (hkey : startsWithDollar key = true) : field ≠ key := by
  rintro rfl
  rw [hfield] at hkey
  cases hkey

theorem matchEntry_field (rule : CaseRule) (d : Document)
    (hfield : startsWithDollar field = false) (condition : Value) :
    matchEntry rule d field condition = fieldHolds rule (d.at? field) condition := by
  have hconnective : ¬isConnective field = true := by
    rw [isConnective_iff]
    rintro (rfl | rfl)
    · exact absurd hfield (by decide)
    · exact absurd hfield (by decide)
  rw [matchEntry_of_not_isConnective hconnective,
    if_neg (ne_of_startsWithDollar hfield (by decide)), hfield]
  rfl

theorem matchesFilter_field (rule : CaseRule) (d : Document)
    (hfield : startsWithDollar field = false) (condition : Value) :
    d.matchesFilter rule [(field, condition)] = fieldHolds rule (d.at? field) condition := by
  rw [Document.matchesFilter, matchEntries_singleton, matchEntry_field rule d hfield]

theorem fieldHolds_operator (rule : CaseRule) (value : Option Value)
    (hoperator : startsWithDollar operator = true) (argument : Value) :
    fieldHolds rule value (.document [(operator, argument)]) =
      operatorHolds rule value [(operator, argument)] operator argument := by
  rw [fieldHolds, if_pos hoperator, operatorsHold, operatorsHold, andThen_true]

end Filter

end DocStore
