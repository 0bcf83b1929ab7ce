import DocStore.Decimal128
import DocStore.Text.Hex
/-!
Values of a document store and documents, which are lists of keys with values in the order in
which they were put there. Putting a value under a key that is present keeps the key's place.
-/
namespace DocStore

/-- Identifiers of twelve bytes. -/
structure ObjectId where
  number : BitVec 96
deriving DecidableEq, Repr, Inhabited

namespace ObjectId

def hex (id : ObjectId) : String := String.ofList (Hex.fixed 24 id.number.toNat)

def ofHex? (s : String) : Option ObjectId :=
  if s.toList.length = 24 then (Hex.number? s.toList).map fun n => ⟨BitVec.ofNat 96 n⟩ else none

end ObjectId

inductive Value where
  | null
  | undefined
  | minKey
  | maxKey
  | bool (b : Bool)
  | int32 (n : Int32)
  | int64 (n : Int64)
  | double (x : Binary64)
  | decimal (x : Decimal128)
  | string (s : String)
  | symbol (s : String)
  | objectId (id : ObjectId)
  | dateTime (millis : Int64)
  | timestamp (time increment : UInt32)
  | binary (subtype : UInt8) (bytes : List UInt8)
  | regex (pattern options : String)
  | code (source : String)
  | codeWithScope (source : String) (scope : List (String × Value))
  | dbPointer (target : String) (id : ObjectId)
  | array (items : List Value)
  | document (fields : List (String × Value))
deriving Inhabited, Repr

abbrev Document := List (String × Value)

namespace Document

def get? (d : Document) (key : String) : Option Value := d.lookup key

def contains (d : Document) (key : String) : Bool := (d.get? key).isSome

def keys (d : Document) : List String := d.map Prod.fst

def insert (d : Document) (key : String) (value : Value) : Document :=
  match d with
  | [] => [(key, value)]
  | (k, v) :: rest => if k = key then (k, value) :: rest else (k, v) :: insert rest key value

def erase (d : Document) (key : String) : Document :=
  match d with
  | [] => []
  | (k, v) :: rest => if k = key then rest else (k, v) :: erase rest key

/-- Puts pairs one after the other. -/
def insertAll (d : Document) (pairs : List (String × Value)) : Document :=
  pairs.foldl (fun d (k, v) => d.insert k v) d

def ofList (pairs : List (String × Value)) : Document := insertAll [] pairs

end Document

end DocStore
