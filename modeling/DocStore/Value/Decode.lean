import DocStore.Value.Tagged
/-!
Reading of typed contents from values. A whole number may be stored in either integer width; nothing
else stands for a number, and only a string stands for a text.
-/
namespace DocStore

namespace Value

def asInt64? (v : Value) : Option Int64 :=
  (Tagged.whole? (-0x8000000000000000) 0x7fffffffffffffff v).map Int64.ofInt

def asInt32? (v : Value) : Option Int32 :=
  (Tagged.whole? (-0x80000000) 0x7fffffff v).map Int32.ofInt

def asText? : Value → Option String := Tagged.text?

/-- An identifier, its digits, or its digits under a tag. -/
def asObjectId? : Value → Option ObjectId
  | .objectId id => some id
  | .string s => ObjectId.ofHex? s
  | .document [("$oid", id)] => Tagged.objectId? id
  | _ => none

end Value

/-- Types that documents are decoded into. -/
class Decodable (α : Type) where
  /-- Name of the type in messages. -/
  target : String
  /-- Gives the reason where a document does not fit. -/
  decode : Document → Except String α

instance : Decodable Document where
  target := "document"
  decode d :=
    match Tagged.readFields false [] d with
    | some (.document d) => .ok d
    | some _ => .error "not a plain document"
    | none => .error "malformed tag"

end DocStore
