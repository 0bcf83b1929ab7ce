import DocStore.Value.Basic
import DocStore.Numeric.Reading
import DocStore.Text.Base64
import DocStore.Time.Instant
/-!
Values written as documents with a tag for a key, as in extended JSON. A document becomes the value
that its first tag names; keys before the tag are dropped, and keys after it are refused or passed
over as the reader asks. A document without a tag stays one.
-/
namespace DocStore

namespace Tagged

def text? : Value → Option String
  | .string s => some s
  | _ => none

/-- A whole number of either width, from `least` to `greatest`. -/
def whole? (least greatest : Int) (v : Value) : Option Int :=
  let within (n : Int) : Option Int := if least ≤ n ∧ n ≤ greatest then some n else none
  match v with
  | .int32 n => within n.toInt
  | .int64 n => within n.toInt
  | _ => none

def unsigned32? (v : Value) : Option UInt32 :=
  (whole? 0 0xffffffff v).map fun n => UInt32.ofNat n.toNat

/-- The values of a record with the given fields and no others, or of a list in their order. -/
def record? (strict : Bool) (names : List String) : Value → Option (List Value)
  | .document fields =>
    if fields.length = names.length then names.mapM fun name => fields.lookup name else none
  | .array items =>
    if items.length = names.length || (!strict && names.length < items.length) then
      some (items.take names.length)
    else none
  | _ => none

def textRecord? (strict : Bool) (names : List String) (v : Value) : Option (List String) := do
  (← record? strict names v).mapM text?

def sortLetters (s : String) : String :=
  String.ofList (s.toList.mergeSort fun a b => decide (a.toNat ≤ b.toNat))

def subtype? (s : String) : Option UInt8 := do
  match ← Hex.toBytes? s with
  | [byte] => some byte
  | _ => none

/-- Sixteen bytes as 32 digits, or in five groups with hyphens, which may stand in braces or after
a name of their namespace. -/
def uuidBytes? (s : String) : Option (List UInt8) :=
  let grouped (cs : List Char) : Option (List UInt8) :=
    let hyphens := [8, 13, 18, 23]
    if cs.length = 36 && hyphens.all fun i => cs[i]? == some '-' then
      let digits := cs.filter (· != '-')
      if digits.length = 32 then Hex.pairs? digits else none
    else none
  let cs := s.toList
  match cs.length with
  | 32 => Hex.pairs? cs
  | 36 => grouped cs
  | 38 => if cs.head? == some '\x7b' && cs.getLast? == some '\x7d' then
      grouped ((cs.drop 1).take 36) else none
  | 45 => if "urn:uuid:".toList.isPrefixOf cs then grouped (cs.drop 9) else none
  | _ => none

def double? (s : String) : Option Binary64 :=
  match s with
  | "Infinity" => some (.infinity false)
  | "-Infinity" => some (.infinity true)
  | "NaN" => some (.nan false)
  | s => Reading.binary64? s

def long? (s : String) : Option Int64 := (Reading.int64? s).toOption

/-- A date as a tagged number, an internet timestamp or a plain number of milliseconds. -/
def date? : Value → Option Int64
  | .string s => (Instant.ofTimestamp? s).map Int64.ofInt
  | .int32 n => some (Int64.ofInt n.toInt)
  | .int64 n => some n
  | v => do
    match ← textRecord? true ["$numberLong"] v with
    | [s] => long? s
    | _ => none

def objectId? : Value → Option ObjectId
  | .string s => ObjectId.ofHex? s
  | .binary 0 bytes =>
    if bytes.length = 12 then
      some ⟨BitVec.ofNat 96 (bytes.foldl (fun n b => 256 * n + b.toNat) 0)⟩
    else none
  | _ => none

/-- The value that a tag makes of the value beside it; no tag at all gives `none`. The tags of code
are not among these, since they look at two keys. -/
def named? (strict : Bool) (tag : String) (v : Value) : Option (Option Value) :=
  match tag with
  | "$oid" => some ((objectId? v).map .objectId)
  | "$symbol" => some ((text? v).map .symbol)
  | "$numberInt" => some do return .int32 (← (Reading.int32? (← text? v)).toOption)
  | "$numberLong" => some do return .int64 (← long? (← text? v))
  | "$numberDouble" => some do return .double (← double? (← text? v))
  | "$numberDecimal" => some do return .decimal (← Decimal128.ofText? (← text? v))
  | "$binary" => some do
    match ← textRecord? strict ["base64", "subType"] v with
    | [base64, subtype] => return .binary (← subtype? subtype) (← Base64.decode? base64)
    | _ => none
  | "$uuid" => some do return .binary 4 (← uuidBytes? (← text? v))
  | "$timestamp" => some do
    match ← record? strict ["t", "i"] v with
    | [t, i] => return .timestamp (← unsigned32? t) (← unsigned32? i)
    | _ => none
  | "$regularExpression" => some do
    match ← textRecord? strict ["pattern", "options"] v with
    | [pattern, options] => return .regex pattern (sortLetters options)
    | _ => none
  | "$dbPointer" => some do
    match ← record? strict ["$ref", "$id"] v with
    | [target, id] =>
      match ← textRecord? strict ["$oid"] id with
      | [id] => return .dbPointer (← text? target) (← ObjectId.ofHex? id)
      | _ => none
    | _ => none
  | "$date" => some ((date? v).map .dateTime)
  | "$maxKey" => some ((whole? 1 1 v).map fun _ => .maxKey)
  | "$minKey" => some ((whole? 1 1 v).map fun _ => .minKey)
  | "$undefined" =>
    match v with
    | .bool true => some (some .undefined)
    | _ => some none
  | _ => none

mutual

/-- Reads a value with the documents in it that carry tags. -/
def read (strict : Bool) : Value → Option Value
  | .array items => (readItems strict items).map .array
  | .document fields => readFields strict [] fields
  | .codeWithScope source scope => do
    match ← readFields strict [] scope with
    | .document scope => return .codeWithScope source scope
    | _ => none
  | .regex pattern options => some (.regex pattern (sortLetters options))
  | v => some v

def readItems (strict : Bool) : List Value → Option (List Value)
  | [] => some []
  | v :: rest => do return (← read strict v) :: (← readItems strict rest)

def readFields (strict : Bool) (done : Document) : List (String × Value) → Option Value
  | [] => some (.document done)
  | ("$code", code) :: [] => do return .code (← text? code)
  | ("$code", code) :: ("$scope", .document scope) :: rest => do
    if strict && !rest.isEmpty then none
    match ← readFields strict [] scope with
    | .document scope => return .codeWithScope (← text? code) scope
    | _ => none
  | ("$code", _) :: _ => none
  | ("$scope", .document scope) :: ("$code", code) :: rest => do
    if strict && !rest.isEmpty then none
    match ← readFields strict [] scope with
    | .document scope => return .codeWithScope (← text? code) scope
    | _ => none
  | ("$scope", _) :: _ => none
  | (key, v) :: rest =>
    match named? strict key v with
    | some tagged => if strict && !rest.isEmpty then none else tagged
    | none => do readFields strict (done.insert key (← read strict v)) rest

end

end Tagged

end DocStore
