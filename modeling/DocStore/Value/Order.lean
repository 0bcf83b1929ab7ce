import DocStore.Value.Equality
import DocStore.Unicode.Case
/-!
The order of values. Numbers of all types are compared as binary numbers in their total order;
texts, booleans, dates and identifiers among themselves; all else by the rank of its type alone.
-/
namespace DocStore

/-- Whether comparisons of texts look at letter case. -/
inductive CaseRule where
  | exact
  | folded
deriving DecidableEq, Repr, Inhabited

namespace CaseRule

/-- The text that stands for a text under the rule. -/
def key : CaseRule → String → String
  | .exact, s => s
  | .folded, s => lowercase s

end CaseRule

namespace Value

def isNumber : Value → Bool
  | .int32 _ | .int64 _ | .double _ | .decimal _ => true
  | _ => false

/-- The nearest binary number of a number. -/
def toBinary64 : Value → Binary64
  | .int32 n => .ofInt n.toInt
  | .int64 n => .ofInt n.toInt
  | .double x => x
  | .decimal x => x.toBinary64
  | _ => .nan false

/-- Place of a type in the order of types. -/
def typeRank : Value → Nat
  | .minKey => 0
  | .null | .undefined => 1
  | .int32 _ | .int64 _ | .double _ | .decimal _ => 2
  | .symbol _ | .string _ => 3
  | .document _ => 4
  | .array _ => 5
  | .binary _ _ => 6
  | .objectId _ => 7
  | .bool _ => 8
  | .dateTime _ => 9
  | .timestamp _ _ => 10
  | .regex _ _ => 11
  | .dbPointer _ _ => 12
  | .code _ => 13
  | .codeWithScope _ _ => 14
  | .maxKey => 255

def compareNumbers (a b : Value) : Ordering :=
  compare a.toBinary64.orderKey b.toBinary64.orderKey

def compare (rule : CaseRule) (a b : Value) : Ordering :=
  if a.isNumber && b.isNumber then compareNumbers a b
  else
    match a, b with
    | .string x, .string y => Ord.compare (rule.key x) (rule.key y)
    | .bool x, .bool y => Ord.compare x.toNat y.toNat
    | .dateTime x, .dateTime y => Ord.compare x.toInt y.toInt
    | .objectId x, .objectId y => Ord.compare x.number.toNat y.number.toNat
    | _, _ => Ord.compare a.typeRank b.typeRank

/-- Equality in filters: texts up to the case rule, numbers by value, all else as it is. -/
def matchesEqual (rule : CaseRule) (a b : Value) : Bool :=
  match rule, a, b with
  | .folded, .string x, .string y => lowercase x == lowercase y
  | _, _, _ => if a.isNumber && b.isNumber then compareNumbers a b == .eq else a.equal b

/-- Values that an order relation in a filter relates at all. -/
def comparable (a b : Value) : Bool :=
  (a.isNumber && b.isNumber) || a.typeRank == b.typeRank

/-- What counts as yes: all but false, null, undefined and the zeros of the binary types. -/
def truthy : Value → Bool
  | .bool b => b
  | .null | .undefined => false
  | .int32 n => n != 0
  | .int64 n => n != 0
  | .double x => !x.isZero
  | _ => true

end Value

end DocStore
