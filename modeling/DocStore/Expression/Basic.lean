import DocStore.Expression.Operator
import DocStore.Value.Basic
/-!
Boolean expressions over the fields of documents, and the ways to build them.
-/
namespace DocStore

inductive Expression where
  | predicate (field : String) (operator : Operator) (value : Value)
  | all (children : List Expression)
  | any (children : List Expression)
deriving Inhabited, Repr

/-- Shapes on the globe, points as longitude and latitude. A polygon has one outer ring. -/
inductive Shape where
  | point (longitude latitude : Binary64)
  | polygon (ring : List (Binary64 × Binary64))
  | geometry (document : Document)
deriving Repr

namespace Shape

def position (p : Binary64 × Binary64) : Value := .array [.double p.1, .double p.2]

def toDocument : Shape → Document
  | .point longitude latitude =>
    [("type", .string "Point"), ("coordinates", position (longitude, latitude))]
  | .polygon ring =>
    [("type", .string "Polygon"), ("coordinates", .array [.array (ring.map position)])]
  | .geometry document => document

end Shape

namespace Expression

/-- The field that turns a predicate into a search for words. -/
def fullTextField : String := "$fullText"

/-- The empty conjunction, which every document satisfies. -/
def everything : Expression := .all []

def equal (field : String) (value : Value) : Expression := .predicate field .equal value

def notEqual (field : String) (value : Value) : Expression := .predicate field .notEqual value

def lessThan (field : String) (value : Value) : Expression := .predicate field .lessThan value

def lessOrEqual (field : String) (value : Value) : Expression :=
  .predicate field .lessOrEqual value

def greaterThan (field : String) (value : Value) : Expression :=
  .predicate field .greaterThan value

def greaterOrEqual (field : String) (value : Value) : Expression :=
  .predicate field .greaterOrEqual value

def isIn (field : String) (values : List Value) : Expression :=
  .predicate field .isIn (.array values)

def notIn (field : String) (values : List Value) : Expression :=
  .predicate field .notIn (.array values)

def inAll (field : String) (values : List Value) : Expression :=
  .predicate field .inAll (.array values)

def beginsWith (field text : String) : Expression :=
  .predicate field .beginsWith (.string text)

def contains (field text : String) : Expression := .predicate field .contains (.string text)

def endsWith (field text : String) : Expression := .predicate field .endsWith (.string text)

def present (field : String) (expected : Bool) : Expression :=
  .predicate field .present (.bool expected)

def fullText (search : String) : Expression :=
  .predicate fullTextField .equal (.string search)

def geoWithin (field : String) (shape : Shape) : Expression :=
  .predicate field .geoWithin (.document shape.toDocument)

def geoIntersects (field : String) (shape : Shape) : Expression :=
  .predicate field .geoIntersects (.document shape.toDocument)

/-- Both expressions hold. A conjunction on the left takes the other as its last child. -/
def and (first second : Expression) : Expression :=
  match first with
  | .all children => .all (children ++ [second])
  | _ => .all [first, second]

/-- One of the expressions holds. A disjunction on the left takes the other as its last child. -/
def or (first second : Expression) : Expression :=
  match first with
  | .any children => .any (children ++ [second])
  | _ => .any [first, second]

def isEmpty : Expression → Bool
  | .predicate _ _ _ => false
  | .all children => children.isEmpty
  | .any children => children.isEmpty

end Expression

end DocStore
