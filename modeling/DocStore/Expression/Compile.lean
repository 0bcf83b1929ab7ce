import DocStore.Expression.Basic
/-!
Filter documents of expressions. An expression without constraints has no filter; inside a
connective it stands as the empty document. An operator whose value has the wrong type compiles to
the empty operator document.
-/
namespace DocStore

namespace Operator

def pattern (value : Value) (surround : String → String) : Document :=
  match value with
  | .string s => [("$regex", .string (surround s)), ("$options", .string "i")]
  | _ => []

def geometry (key : String) (value : Value) : Document :=
  [(key, .document [("$geometry", value)])]

/-- The condition that an operator puts on the value of a field. -/
def condition (operator : Operator) (value : Value) : Document :=
  match operator with
  | .equal => [("$eq", value)]
  | .notEqual => [("$ne", value)]
  | .lessThan => [("$lt", value)]
  | .lessOrEqual => [("$lte", value)]
  | .greaterOrEqual => [("$gte", value)]
  | .greaterThan => [("$gt", value)]
  | .isIn => [("$in", value)]
  | .notIn => [("$nin", value)]
  | .inAll => [("$all", value)]
  | .present =>
    match value with
    | .bool expected => [("$exists", .bool expected)]
    | _ => []
  | .geoWithin => geometry "$geoWithin" value
  | .geoIntersects => geometry "$geoIntersects" value
  | .beginsWith => pattern value fun s => "^" ++ s
  | .contains => pattern value id
  | .endsWith => pattern value fun s => s ++ "$"

end Operator

namespace Expression

def compilePredicate (field : String) (operator : Operator) (value : Value) : Document :=
  if field = fullTextField then [("$text", .document [("$search", value)])]
  else [(field, .document (operator.condition value))]

mutual

def compile : Expression → Option Document
  | .predicate field operator value => some (compilePredicate field operator value)
  | .all [] => none
  | .all (c :: rest) => some [("$and", .array (compileChildren (c :: rest)))]
  | .any [] => none
  | .any (c :: rest) => some [("$or", .array (compileChildren (c :: rest)))]

def compileChildren : List Expression → List Value
  | [] => []
  | c :: rest => .document ((compile c).getD []) :: compileChildren rest

end

/-- The filter, the empty document if there is none. -/
def toFilter (e : Expression) : Document := e.compile.getD []

end Expression

end DocStore
