import DocStore.Value.Basic
import DocStore.Numeric.Shortest
import DocStore.Text.Base64
import DocStore.Time.Instant
/-!
Text of values and documents. Keys and strings stand between quotes as they are, numbers are
written without an exponent, and the other types show their kind and content.
-/
namespace DocStore

def Binary64.text (x : Binary64) : String :=
  if x.isNaN then "NaN"
  else if x.isInfinite then if x.negative then "-inf" else "inf"
  else DecimalLayout.plain.render x

def quoted (s : String) : String := "\"" ++ s ++ "\""

namespace Value

mutual

def text : Value → String
  | .null => "null"
  | .undefined => "undefined"
  | .minKey => "MinKey"
  | .maxKey => "MaxKey"
  | .bool b => if b then "true" else "false"
  | .int32 n => toString n.toInt
  | .int64 n => toString n.toInt
  | .double x => x.text
  | .decimal x => x.text
  | .string s => quoted s
  | .symbol s => "Symbol(" ++ quoted s ++ ")"
  | .objectId id => "ObjectId(" ++ quoted id.hex ++ ")"
  | .dateTime millis => "DateTime(" ++ quoted (Instant.text millis.toInt) ++ ")"
  | .timestamp time increment =>
    "Timestamp(" ++ toString time.toNat ++ ", " ++ toString increment.toNat ++ ")"
  | .binary subtype bytes =>
    "Binary(0x" ++ String.ofList (Nat.toDigits 16 subtype.toNat) ++ ", " ++ Base64.encode bytes ++
      ")"
  | .regex pattern options => "/" ++ pattern ++ "/" ++ options
  | .code source => source
  | .codeWithScope source _ => source
  | .dbPointer target id => "DbPointer(" ++ target ++ ", " ++ id.hex ++ ")"
  | .array items => "[" ++ ", ".intercalate (itemTexts items) ++ "]"
  | .document fields =>
    match fieldTexts fields with
    | [] => "\x7b\x7d"
    | texts => "\x7b " ++ ", ".intercalate texts ++ " \x7d"

def itemTexts : List Value → List String
  | [] => []
  | v :: rest => text v :: itemTexts rest

def fieldTexts : List (String × Value) → List String
  | [] => []
  | (key, v) :: rest => (quoted key ++ ": " ++ text v) :: fieldTexts rest

end

end Value

def Document.text (d : Document) : String := (Value.document d).text

end DocStore
