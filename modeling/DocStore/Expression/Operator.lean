import DocStore.Text.Blank
/-!
Operators of predicates and their names. A name is read without blanks around it, in any case, with
underscores and hyphens for spaces; a name that is none of these means equality.
-/
namespace DocStore

inductive Operator where
  | equal
  | notEqual
  | lessThan
  | lessOrEqual
  | greaterOrEqual
  | greaterThan
  | isIn
  | notIn
  | inAll
  | beginsWith
  | contains
  | endsWith
  | present
  | geoWithin
  | geoIntersects
deriving DecidableEq, Repr, Inhabited

namespace Operator

def name : Operator → String
  | .equal => "="
  | .notEqual => "!="
  | .lessThan => "<"
  | .lessOrEqual => "<="
  | .greaterOrEqual => ">="
  | .greaterThan => ">"
  | .isIn => "IN"
  | .notIn => "NOT IN"
  | .inAll => "ALL"
  | .beginsWith => "BEGINS"
  | .contains => "CONTAINS"
  | .endsWith => "ENDS"
  | .present => "EXISTS"
  | .geoWithin => "GEO-WITHIN"
  | .geoIntersects => "GEO-INTERSECTS"

/-- Capital ASCII letters, and a space for each underscore and hyphen. -/
def nameChar (c : Char) : Char :=
  if c = '_' ∨ c = '-' then ' ' else c.toUpper

def normalName (s : String) : String :=
  String.ofList ((Text.trimChars s.toList).map nameChar)

def ofName (s : String) : Operator :=
  match normalName s with
  | "!=" | "<>" | "NE" | "NOT EQUAL" => .notEqual
  | "<" | "LT" | "LESS THAN" => .lessThan
  | "<=" | "LTE" | "LESS OR EQUAL" => .lessOrEqual
  | ">=" | "GTE" | "GREATER OR EQUAL" => .greaterOrEqual
  | ">" | "GT" | "GREATER THAN" => .greaterThan
  | "IN" => .isIn
  | "NOT IN" | "NIN" => .notIn
  | "ALL" | "IN ALL" => .inAll
  | "BEGINS" | "BEGINS WITH" => .beginsWith
  | "CONTAINS" => .contains
  | "ENDS" | "ENDS WITH" => .endsWith
  | "EXISTS" => .present
  | "GEO WITHIN" => .geoWithin
  | "GEO INTERSECTS" => .geoIntersects
  | _ => .equal

theorem ofName_name (op : Operator) : ofName op.name = op := by
  cases op <;> decide

end Operator

end DocStore
