import DocStore.Expression.Basic
import DocStore.Value.Json
import DocStore.Json.Decode
import DocStore.Json.Reader
import DocStore.Json.Writer
/-!
Expressions in JSON: predicates as records, connectives as lists of their parts.
-/
namespace DocStore.Expression

mutual

def toJson : Expression → Json
  | .predicate field operator value =>
    .ofFields [("predicate", .ofFields [("field", .ofString field),
      ("operator", .ofString operator.name), ("value", value.toJson)])]
  | .all parts => .ofFields [("and", .array (partsToJson parts))]
  | .any parts => .ofFields [("or", .array (partsToJson parts))]

def partsToJson : List Expression → List Json
  | [] => []
  | e :: rest => toJson e :: partsToJson rest

end

/-- Every expression takes two levels of nesting: its own, and that of its content. -/
def contentDepth? (depth : Nat) : Option Nat := if 2 ≤ depth then some (depth - 2) else none

mutual

/-- Reads an expression, where `depth` containers may be nested. -/
def ofJson? (depth : Nat) : Json → Option Expression
  | .object [(some "predicate", content)] => do
    let depth ← contentDepth? depth
    match ← Json.record? ["field", "operator", "value"] content with
    | [field, operator, value] =>
      return .predicate (← field.text?) (.ofName (← operator.text?)) (← Value.ofJson? depth value)
    | _ => none
  | .object [(some "and", .array parts)] => do
    return .all (← partsOfJson? (← contentDepth? depth) parts)
  | .object [(some "or", .array parts)] => do
    return .any (← partsOfJson? (← contentDepth? depth) parts)
  | _ => none

def partsOfJson? (depth : Nat) : List Json → Option (List Expression)
  | [] => some []
  | e :: rest => do return (← ofJson? depth e) :: (← partsOfJson? depth rest)

end

def toText (e : Expression) : String := e.toJson.write

def ofText? (s : String) : Option Expression := do ofJson? Json.maxDepth (← Json.ofText? s)

end DocStore.Expression
