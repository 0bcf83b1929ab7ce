import DocStore.Value.Basic
/-!
Equality of values: same type and same content. Numbers of different types differ, a NaN differs
from itself, and documents are equal when they hold equal values under the same keys in any order.
-/
namespace DocStore

namespace Value

mutual

def equal : Value → Value → Bool
  | .null, .null => true
  | .undefined, .undefined => true
  | .minKey, .minKey => true
  | .maxKey, .maxKey => true
  | .bool a, .bool b => a == b
  | .int32 a, .int32 b => a == b
  | .int64 a, .int64 b => a == b
  | .double a, .double b => a.same b
  | .decimal a, .decimal b => a == b
  | .string a, .string b => a == b
  | .symbol a, .symbol b => a == b
  | .objectId a, .objectId b => a == b
  | .dateTime a, .dateTime b => a == b
  | .timestamp t i, .timestamp u j => t == u && i == j
  | .binary s a, .binary t b => s == t && a == b
  | .regex p o, .regex q r => p == q && o == r
  | .code a, .code b => a == b
  | .codeWithScope a s, .codeWithScope b t => a == b && s.length == t.length && equalFields s t
  | .dbPointer n a, .dbPointer m b => n == m && a == b
  | .array xs, .array ys => equalItems xs ys
  | .document d, .document e => d.length == e.length && equalFields d e
  | _, _ => false

def equalItems : List Value → List Value → Bool
  | [], [] => true
  | x :: xs, y :: ys => equal x y && equalItems xs ys
  | _, _ => false

/-- Each value of the first list equals the one under its key in the second. -/
def equalFields : List (String × Value) → List (String × Value) → Bool
  | [], _ => true
  | (key, v) :: rest, other =>
    (match other.lookup key with
      | some w => equal v w
      | none => false) && equalFields rest other

end

end Value

def Document.equal (d e : Document) : Bool :=
  d.length == e.length && Value.equalFields d e

end DocStore
