import DocStore.Expression.Compile
import DocStore.Filter.Match
/-!
What expressions say of documents, without filters. The value at a field may be missing, and an
array has what one of its items has; the relations of operators are told from these two. Conjunction
and disjunction are those of logic, but that an empty disjunction holds, as it constrains nothing.
-/
namespace DocStore

namespace Value

/-- The values that a relation may hold of: the items of an array, or the value itself. -/
def parts : Value → List Value
  | .array items => items
  | v => [v]

def isArray : Value → Bool
  | .array _ => true
  | _ => false

/-- A string occurs in a value, at any depth. -/
inductive HasText : Value → String → Prop where
  | string (s : String) : HasText (.string s) s
  | item {items : List Value} {v : Value} {s : String} (hv : v ∈ items) (h : HasText v s) :
    HasText (.array items) s
  | field {fields : List (String × Value)} {key : String} {v : Value} {s : String}
    (hv : (key, v) ∈ fields) (h : HasText v s) : HasText (.document fields) s

end Value

variable [Regex.Engine]

namespace Filter

/-- A missing value equals null alone. An array equals an array as a whole, and any other value by
one of its items. -/
def Equals (rule : CaseRule) (value : Option Value) (target : Value) : Prop :=
  match value with
  | none => target = .null
  | some v => ∃ part ∈ if target.isArray then [v] else v.parts,
      part.matchesEqual rule target = true

/-- One part of the value can be compared with the target and stands in the order to it. -/
def Ordered (rule : CaseRule) (order : Ordering → Prop) (value : Option Value) (target : Value) :
    Prop :=
  ∃ v, value = some v ∧ ∃ part ∈ v.parts,
    part.comparable target = true ∧ order (part.compare rule target)

def caselessFlags : Regex.Flags := { caseless := true }

/-- One part of the value is a string in which the pattern is found, in any letter case. -/
def Fits (pattern : String) (value : Option Value) : Prop :=
  ∃ isMatch v s, Regex.Engine.read caselessFlags pattern = .ok isMatch ∧ value = some v ∧
    .string s ∈ v.parts ∧ isMatch s = true

/-- One of the words occurs in one of the strings, in any letter case. -/
def Mentions (d : Document) (search : String) : Prop :=
  ∃ word ∈ Text.words search, ∃ s, (Value.document d).HasText s ∧
    (lowercase word).toList <:+: (lowercase s).toList

end Filter

namespace Operator

open DocStore.Filter

/-- The relation that an operator asks for between a value and an operand of the right kind. -/
def Relates (rule : CaseRule) (operator : Operator) (value : Option Value) (operand : Value) :
    Prop :=
  match operator, operand with
  | .equal, _ => Equals rule value operand
  | .notEqual, _ => ¬Equals rule value operand
  | .lessThan, _ => Ordered rule (· = .lt) value operand
  | .lessOrEqual, _ => Ordered rule (· ≠ .gt) value operand
  | .greaterThan, _ => Ordered rule (· = .gt) value operand
  | .greaterOrEqual, _ => Ordered rule (· ≠ .lt) value operand
  | .isIn, .array targets => ∃ target ∈ targets, Equals rule value target
  | .notIn, .array targets => ∀ target ∈ targets, ¬Equals rule value target
  | .inAll, .array targets => targets ≠ [] ∧ ∀ target ∈ targets, Equals rule value target
  | .present, .bool expected => expected = true ↔ ∃ v, value = some v
  | .beginsWith, .string s => Fits ("^" ++ s) value
  | .contains, .string s => Fits s value
  | .endsWith, .string s => Fits (s ++ "$") value
  | _, _ => False

def IsPattern (pattern : String) : Prop :=
  ∃ isMatch, Regex.Engine.read caselessFlags pattern = .ok isMatch

/-- Operands of the right kind. No operand is one for the operators on shapes, which the store
cannot answer. -/
def Accepts (operator : Operator) (operand : Value) : Prop :=
  match operator with
  | .equal | .notEqual | .lessThan | .lessOrEqual | .greaterThan | .greaterOrEqual => True
  | .isIn | .notIn | .inAll => ∃ targets, operand = .array targets
  | .present => ∃ expected, operand = .bool expected
  | .beginsWith => ∃ s, operand = .string s ∧ IsPattern ("^" ++ s)
  | .contains => ∃ s, operand = .string s ∧ IsPattern s
  | .endsWith => ∃ s, operand = .string s ∧ IsPattern (s ++ "$")
  | .geoWithin | .geoIntersects => False

end Operator

namespace Expression

/-- Expressions that say something of every document. -/
inductive WellFormed : Expression → Prop where
  | fullText (operator : Operator) (search : String) :
    WellFormed (.predicate fullTextField operator (.string search))
  | predicate {field : String} {operator : Operator} {operand : Value}
    (hfield : Filter.startsWithDollar field = false) (hoperand : operator.Accepts operand) :
    WellFormed (.predicate field operator operand)
  | all {children : List Expression} (h : ∀ c ∈ children, WellFormed c) :
    WellFormed (.all children)
  | any {children : List Expression} (h : ∀ c ∈ children, WellFormed c) :
    WellFormed (.any children)

/-- What an expression says of a document. -/
inductive Holds (rule : CaseRule) (d : Document) : Expression → Prop where
  | fullText {operator : Operator} {search : String} (h : Filter.Mentions d search) :
    Holds rule d (.predicate fullTextField operator (.string search))
  | predicate {field : String} {operator : Operator} {operand : Value}
    (hfield : field ≠ fullTextField) (h : operator.Relates rule (d.at? field) operand) :
    Holds rule d (.predicate field operator operand)
  | all {children : List Expression} (h : ∀ c ∈ children, Holds rule d c) :
    Holds rule d (.all children)
  | unconstrained : Holds rule d (.any [])
  | any {children : List Expression} {c : Expression} (hc : c ∈ children) (h : Holds rule d c) :
    Holds rule d (.any children)

variable {rule : CaseRule} {d : Document} {field : String} {operator : Operator} {operand : Value}
  {children : List Expression}

theorem holds_fullText_iff {search : String} :
    Holds rule d (.predicate fullTextField operator (.string search)) ↔
      Filter.Mentions d search := by
  constructor
  · intro h
    cases h with
    | fullText h => exact h
    | predicate hfield h => exact absurd rfl hfield
  · exact Holds.fullText

theorem holds_predicate_iff (hfield : field ≠ fullTextField) :
    Holds rule d (.predicate field operator operand) ↔
      operator.Relates rule (d.at? field) operand := by
  constructor
  · intro h
    cases h with
    | fullText h => exact absurd rfl hfield
    | predicate _ h => exact h
  · exact Holds.predicate hfield

theorem holds_all_iff : Holds rule d (.all children) ↔ ∀ c ∈ children, Holds rule d c := by
  constructor
  · intro h
    cases h with
    | all h => exact h
  · exact Holds.all

theorem holds_any_iff :
    Holds rule d (.any children) ↔ children = [] ∨ ∃ c ∈ children, Holds rule d c := by
  constructor
  · intro h
    cases h with
    | unconstrained => exact Or.inl rfl
    | any hc h => exact Or.inr ⟨_, hc, h⟩
  · rintro (rfl | ⟨c, hc, h⟩)
    · exact Holds.unconstrained
    · exact Holds.any hc h

end Expression

end DocStore
