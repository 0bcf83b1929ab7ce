import DocStore.Value.Tagged
import DocStore.Json.Basic
/-!
Values in JSON. Values without a form of their own in JSON are documents with a tag. Whole numbers
of the text become the narrowest integers if they carry no sign.
-/
namespace DocStore

namespace Json

/-- Containers may be nested to this depth where their content is looked at. -/
def maxDepth : Nat := 127

end Json

namespace Value

def tagged (tag : String) (v : Json) : Json := .ofFields [(tag, v)]

mutual

def toJson : Value → Json
  | .null => .null
  | .undefined => tagged "$undefined" (.bool true)
  | .minKey => tagged "$minKey" (.ofNat 1)
  | .maxKey => tagged "$maxKey" (.ofNat 1)
  | .bool b => .bool b
  | .int32 n => .ofInt64 n.toInt64
  | .int64 n => .ofInt64 n
  | .double x => .double x
  | .decimal x => tagged "$numberDecimal" (.ofString x.text)
  | .string s => .ofString s
  | .symbol s => tagged "$symbol" (.ofString s)
  | .objectId id => tagged "$oid" (.ofString id.hex)
  | .dateTime millis => tagged "$date" (tagged "$numberLong" (.ofString (toString millis.toInt)))
  | .timestamp time increment => tagged "$timestamp"
      (.ofFields [("t", .ofNat time.toNat), ("i", .ofNat increment.toNat)])
  | .binary subtype bytes =>
    if subtype = 0 then .array (bytes.map fun b => .ofNat b.toNat)
    else tagged "$binary" (.ofFields [("base64", .ofString (Base64.encode bytes)),
      ("subType", .ofString (Hex.ofBytes [subtype]))])
  | .regex pattern options => tagged "$regularExpression"
      (.ofFields [("pattern", .ofString pattern), ("options", .ofString options)])
  | .code source => tagged "$code" (.ofString source)
  | .codeWithScope source scope =>
    .ofFields [("$code", .ofString source), ("$scope", .object (fieldsToJson scope))]
  | .dbPointer target id => tagged "$dbPointer"
      (.ofFields [("$ref", .ofString target), ("$id", tagged "$oid" (.ofString id.hex))])
  | .array items => .array (itemsToJson items)
  | .document fields => .object (fieldsToJson fields)

def itemsToJson : List Value → List Json
  | [] => []
  | v :: rest => toJson v :: itemsToJson rest

def fieldsToJson : List (String × Value) → List (Option String × Json)
  | [] => []
  | (key, v) :: rest => (some key, toJson v) :: fieldsToJson rest

end

def ofNatural (n : UInt64) : Option Value :=
  if n.toNat ≤ 0x7fffffff then some (.int32 (Int32.ofNat n.toNat))
  else if n.toNat ≤ 0x7fffffffffffffff then some (.int64 (Int64.ofNat n.toNat))
  else none

mutual

/-- The value that a tree spells out, tags still being keys, where `depth` more containers may be
nested. -/
def plainOfJson? (depth : Nat) : Json → Option Value
  | .null => some .null
  | .bool b => some (.bool b)
  | .natural n => ofNatural n
  | .negative n => some (.int64 n)
  | .double x => some (.double x)
  | .overflow => none
  | .text s => s.map .string
  | .array items =>
    match depth with
    | 0 => none
    | depth + 1 => (plainItems? depth items).map .array
  | .object fields =>
    match depth with
    | 0 => none
    | depth + 1 => (plainFields? depth fields).map .document

def plainItems? (depth : Nat) : List Json → Option (List Value)
  | [] => some []
  | v :: rest => do return (← plainOfJson? depth v) :: (← plainItems? depth rest)

def plainFields? (depth : Nat) : List (Option String × Json) → Option (List (String × Value))
  | [] => some []
  | (key, v) :: rest => do
    return (← key, ← plainOfJson? depth v) :: (← plainFields? depth rest)

end

def ofJson? (depth : Nat) (v : Json) : Option Value := do
  Tagged.read true (← plainOfJson? depth v)

end Value

end DocStore
