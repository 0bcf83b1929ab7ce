import DocStore.Json.Basic
/-!
Records and alternatives in JSON. A record is an object, in which unknown fields are passed over and
known ones stand once, or a list of its fields in order. An alternative with content is an object of
one field, named for it; one without content may be its name alone.
-/
namespace DocStore.Json

/-- The fields of a record; all are to be there. -/
def record? (names : List String) : Json → Option (List Json)
  | .array items => if items.length = names.length then some items else none
  | .object fields => do
    let keys ← fields.mapM fun (key, _) => key
    names.mapM fun name =>
      match (keys.zip (fields.map Prod.snd)).filter fun (key, _) => key == name with
      | [(_, v)] => some v
      | _ => none
  | _ => none

/-- The name of an alternative and its content. -/
def alternative? : Json → Option (String × Json)
  | .text (some name) => some (name, .null)
  | .object [(some name, content)] => some (name, content)
  | _ => none

def text? : Json → Option String
  | .text s => s
  | _ => none

def bool? : Json → Option Bool
  | .bool b => some b
  | _ => none

def int64? : Json → Option Int64
  | .natural n => if n.toNat ≤ 0x7fffffffffffffff then some (Int64.ofNat n.toNat) else none
  | .negative n => some n
  | _ => none

def array? : Json → Option (List Json)
  | .array items => some items
  | _ => none

end DocStore.Json
