import DocStore.Numeric.Binary64
/-!
JSON trees. A tree that was read keeps what is grammatical but has no meaning, a string with half a
surrogate pair or a number beyond all bounds, so that a reader may pass over the part it is in.
-/
namespace DocStore

inductive Json where
  | null
  | bool (b : Bool)
  | natural (n : UInt64)
  | negative (n : Int64)
  | double (x : Binary64)
  | overflow
  | text (s : Option String)
  | array (items : List Json)
  | object (fields : List (Option String × Json))
deriving Inhabited

namespace Json

def ofString (s : String) : Json := .text (some s)

def ofNat (n : Nat) : Json := .natural (UInt64.ofNat n)

def ofInt64 (n : Int64) : Json := if n < 0 then .negative n else .natural n.toUInt64

def ofFields (fields : List (String × Json)) : Json :=
  .object (fields.map fun (key, v) => (some key, v))

end Json

end DocStore
