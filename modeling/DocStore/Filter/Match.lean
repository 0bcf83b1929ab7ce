import DocStore.StoreError
import DocStore.Document.Path
import DocStore.Filter.Relation
import DocStore.Filter.TextSearch
import DocStore.Regex.Engine
/-!
Whether a document matches a filter. The entries of a filter are tried in order, and so are the
operators of a condition; the first one that fails to hold ends the work, so that a fault further
on goes unnoticed.
-/
namespace DocStore.Filter

abbrev Verdict := Except StoreError Bool

/-- Tries the second part if the first one holds. -/
@[macro_inline] def andThen (first second : Verdict) : Verdict :=
  match first with
  | .ok true => second
  | other => other

/-- Tries the second part if the first one does not hold. -/
@[macro_inline] def orElse (first second : Verdict) : Verdict :=
  match first with
  | .ok false => second
  | other => other

def startsWithDollar (key : String) : Bool := key.toList.head? == some '$'

def arrayArgument (operator : String) : Value → Except StoreError (List Value)
  | .array items => .ok items
  | _ => .error (.badValue (operator ++ " needs an array"))

/-- The modes named in the options of a condition; letters without a meaning are passed over. -/
def patternFlags (condition : Document) : Regex.Flags :=
  match condition.get? "$options" with
  | some (.string letters) =>
    { caseless := letters.toList.contains 'i', multiline := letters.toList.contains 'm',
      dotMatchesNewline := letters.toList.contains 's' }
  | _ => {}

variable [Regex.Engine]

/-- Matches a pattern against a string or the strings of an array. The pattern is read even if there
is nothing to match it against. -/
def matchesPattern (value : Option Value) (pattern : Value) (flags : Regex.Flags) : Verdict :=
  match pattern with
  | .string pattern =>
    match Regex.Engine.read flags pattern with
    | .error refusal => .error (.badValue ("invalid regular expression: " ++ refusal.message))
    | .ok isMatch =>
      let holds : Value → Bool
        | .string s => isMatch s
        | _ => false
      .ok (match value with
        | some (.array items) => items.any holds
        | some v => holds v
        | none => false)
  | _ => .error (.badValue "$regex has to be a string")

/-- Whether one operator of a condition holds of a value. -/
def operatorHolds (rule : CaseRule) (value : Option Value) (condition : Document)
    (operator : String) (argument : Value) : Verdict :=
  match operator with
  | "$eq" => .ok (equals rule value argument)
  | "$ne" => .ok (!equals rule value argument)
  | "$lt" => .ok (ordered rule (· == .lt) value argument)
  | "$lte" => .ok (ordered rule (· != .gt) value argument)
  | "$gt" => .ok (ordered rule (· == .gt) value argument)
  | "$gte" => .ok (ordered rule (· != .lt) value argument)
  | "$in" => (arrayArgument operator argument).map (memberOf rule value)
  | "$nin" => (arrayArgument operator argument).map fun set => !memberOf rule value set
  | "$all" => (arrayArgument operator argument).map (containsAll rule value)
  | "$exists" => .ok (value.isSome == argument.truthy)
  | "$regex" => matchesPattern value argument (patternFlags condition)
  | "$options" => .ok true
  | "$geoWithin" | "$geoIntersects" | "$near" | "$nearSphere" =>
    .error (.unsupported
      (operator ++ " requires a geospatial index, which the in-memory store does not have"))
  | other => .error (.badValue ("unknown operator: " ++ other))

/-- Whether all operators of a condition hold, tried in order. -/
def operatorsHold (rule : CaseRule) (value : Option Value) (condition : Document) :
    List (String × Value) → Verdict
  | [] => .ok true
  | (operator, argument) :: rest =>
    andThen (operatorHolds rule value condition operator argument)
      (operatorsHold rule value condition rest)

/-- A document whose first key starts with a dollar sign is a condition; any other value is to be
equalled. -/
def fieldHolds (rule : CaseRule) (value : Option Value) (condition : Value) : Verdict :=
  match condition with
  | .document ((key, argument) :: rest) =>
    if startsWithDollar key then
      operatorsHold rule value ((key, argument) :: rest) ((key, argument) :: rest)
    else .ok (equals rule value condition)
  | _ => .ok (equals rule value condition)

def textHolds (d : Document) : Value → Verdict
  | .document arguments =>
    match Document.get? arguments "$search" with
    | some (.string search) => .ok (searchText d search)
    | _ => .error (.badValue "$search must be a string")
  | _ => .error (.badValue "$text needs an object")

def isDocument : Value → Bool
  | .document _ => true
  | _ => false

/-- What is wrong with the clauses of a connective. -/
def clauseFault? (key : String) : Value → Option StoreError
  | .array [] => some (.badValue (key ++ " must be a nonempty array"))
  | .array items =>
    if items.all isDocument then none else some (.badValue (key ++ " entries must be objects"))
  | _ => some (.badValue (key ++ " must be an array"))

mutual

def matchEntries (rule : CaseRule) (d : Document) : List (String × Value) → Verdict
  | [] => .ok true
  | (key, value) :: rest => andThen (matchEntry rule d key value) (matchEntries rule d rest)

/-- Whether one entry of a filter holds of a document. -/
def matchEntry (rule : CaseRule) (d : Document) (key : String) (value : Value) : Verdict :=
  if key = "$and" then
    match clauseFault? key value with
    | some fault => .error fault
    | none =>
      match value with
      | .array clauses => matchAll rule d clauses
      | _ => .ok true
  else if key = "$or" then
    match clauseFault? key value with
    | some fault => .error fault
    | none =>
      match value with
      | .array clauses => matchAny rule d clauses
      | _ => .ok true
  else if key = "$text" then textHolds d value
  else if startsWithDollar key then
    .error (.badValue ("unknown top level operator: " ++ key))
  else fieldHolds rule (d.at? key) value

def matchAll (rule : CaseRule) (d : Document) : List Value → Verdict
  | [] => .ok true
  | .document filter :: rest => andThen (matchEntries rule d filter) (matchAll rule d rest)
  | _ :: rest => matchAll rule d rest

def matchAny (rule : CaseRule) (d : Document) : List Value → Verdict
  | [] => .ok false
  | .document filter :: rest => orElse (matchEntries rule d filter) (matchAny rule d rest)
  | _ :: rest => matchAny rule d rest

end

end DocStore.Filter

namespace DocStore

def Document.matchesFilter [Regex.Engine] (rule : CaseRule) (d filter : Document) : Filter.Verdict :=
  Filter.matchEntries rule d filter

end DocStore
