import DocStore.Value.Json
import DocStore.Json.Decode
import DocStore.Proofs.Document.Projection
import DocStore.Proofs.Json.Trees
/-!
Values that JSON text keeps. Null, booleans, strings, whole numbers of the width that reading gives
them, and arrays and documents of such values are read as they were written, as long as they are not
nested too deeply and no key of a document can be taken for a tag.
-/
namespace DocStore

namespace Json

mutual

/-- How many containers are nested in each other at most. -/
def nesting : Json → Nat
  | .array items => itemsNesting items + 1
  | .object fields => fieldsNesting fields + 1
  | _ => 0

def itemsNesting : List Json → Nat
  | [] => 0
  | v :: rest => max (nesting v) (itemsNesting rest)

def fieldsNesting : List (Option String × Json) → Nat
  | [] => 0
  | (_, v) :: rest => max (nesting v) (fieldsNesting rest)

end

section Numbers

variable {n : Int64}

theorem ofInt64_of_neg (h : n.toInt < 0) : ofInt64 n = .negative n :=
  if_pos (Int64.lt_iff_toInt_lt.mpr h)

theorem ofInt64_of_nonneg (h : 0 ≤ n.toInt) : ofInt64 n = .natural n.toUInt64 := by
  refine if_neg fun hneg => ?_
  have hless : n.toInt < 0 := Int64.lt_iff_toInt_lt.mp hneg
  omega

theorem toNat_toUInt64 (h : 0 ≤ n.toInt) : (n.toUInt64.toNat : Int) = n.toInt := by
  have hbits : n.toUInt64.toNat = n.toBitVec.toNat := rfl
  have hint : n.toInt = n.toBitVec.toInt := rfl
  rw [BitVec.toInt_eq_toNat_cond] at hint
  split at hint <;> omega

theorem ofNat_toUInt64 (n : Int64) : Int64.ofNat n.toUInt64.toNat = n :=
  Int64.toBitVec.inj (BitVec.ofNat_toNat ..)

theorem readable_ofInt64 (n : Int64) : (ofInt64 n).Readable := by
  rcases Int.lt_or_le n.toInt 0 with hneg | hnonneg
  · rw [ofInt64_of_neg hneg]
    exact hneg
  · rw [ofInt64_of_nonneg hnonneg]
    trivial

theorem int64?_ofInt64 (n : Int64) : (ofInt64 n).int64? = some n := by
  rcases Int.lt_or_le n.toInt 0 with hneg | hnonneg
  · rw [ofInt64_of_neg hneg]
    rfl
  · have hvalue := toNat_toUInt64 hnonneg
    have hrange := Int64.toInt_lt n
    rw [ofInt64_of_nonneg hnonneg, int64?, if_pos (by omega), ofNat_toUInt64]

end Numbers

end Json

namespace Value

mutual

/-- Whether a value has a form of its own in JSON and is the value that this form is read as. -/
def Portable : Value → Prop
  | .null | .bool _ | .string _ => True
  | .int32 n => 0 ≤ n.toInt
  | .int64 n => n.toInt < 0 ∨ 0x7fffffff < n.toInt
  | .array items => PortableItems items
  | .document fields => (Document.keys fields).Nodup ∧ PortableFields fields
  | _ => False

def PortableItems : List Value → Prop
  | [] => True
  | v :: rest => Portable v ∧ PortableItems rest

def PortableFields : List (String × Value) → Prop
  | [] => True
  | (key, v) :: rest => key.toList.head? ≠ some '$' ∧ Portable v ∧ PortableFields rest

end

theorem toJson_int32 {n : Int32} (h : 0 ≤ n.toInt) :
    (Value.int32 n).toJson = .natural n.toInt64.toUInt64 := by
  rw [toJson, Json.ofInt64_of_nonneg (by rwa [Int32.toInt_toInt64])]

theorem ofNatural_int32 {n : Int32} (h : 0 ≤ n.toInt) :
    ofNatural n.toInt64.toUInt64 = some (.int32 n) := by
  have hvalue := Json.toNat_toUInt64 (n := n.toInt64) (by rwa [Int32.toInt_toInt64])
  rw [Int32.toInt_toInt64] at hvalue
  have hbits : n.toInt = n.toBitVec.toInt := rfl
  rw [BitVec.toInt_eq_toNat_cond] at hbits
  have hnat : n.toInt64.toUInt64.toNat = n.toBitVec.toNat := by
    split at hbits <;> omega
  have hrange := Int32.toInt_lt n
  rw [ofNatural, if_pos (by omega), hnat]
  exact congrArg (some ∘ Value.int32) (Int32.toBitVec.inj (BitVec.ofNat_toNat ..))

theorem ofNatural_int64 {n : Int64} (h : 0x7fffffff < n.toInt) :
    ofNatural n.toUInt64 = some (.int64 n) := by
  have hvalue := Json.toNat_toUInt64 (n := n) (by omega)
  have hrange := Int64.toInt_lt n
  rw [ofNatural, if_neg (by omega), if_pos (by omega), Json.ofNat_toUInt64]

mutual

theorem readable_toJson : ∀ v : Value, v.Portable → v.toJson.Readable
  | .null, _ | .bool _, _ | .string _, _ => trivial
  | .int32 n, h => by
    rw [toJson_int32 h]
    trivial
  | .int64 n, _ => Json.readable_ofInt64 n
  | .array items, h => readable_itemsToJson items h
  | .document fields, h => readable_fieldsToJson fields h.2

theorem readable_itemsToJson : ∀ items : List Value,
    PortableItems items → Json.ReadableItems (itemsToJson items)
  | [], _ => trivial
  | v :: rest, h => ⟨readable_toJson v h.1, readable_itemsToJson rest h.2⟩

theorem readable_fieldsToJson : ∀ fields : List (String × Value),
    PortableFields fields → Json.ReadableFields (fieldsToJson fields)
  | [], _ => trivial
  | (_, v) :: rest, h => ⟨rfl, readable_toJson v h.2.1, readable_fieldsToJson rest h.2.2⟩

end

mutual

/-- A value is spelled out by its tree as far as the tree may be nested. -/
theorem plainOfJson?_toJson : ∀ (v : Value) {depth : Nat}, v.Portable →
    v.toJson.nesting ≤ depth → plainOfJson? depth v.toJson = some v
  | .null, _, _, _ | .bool _, _, _, _ | .string _, _, _, _ => rfl
  | .int32 n, _, h, _ => by
    rw [toJson_int32 h]
    exact ofNatural_int32 h
  | .int64 n, _, h, _ => by
    rcases h with hneg | hlarge
    · rw [toJson, Json.ofInt64_of_neg hneg]
      rfl
    · rw [toJson, Json.ofInt64_of_nonneg (by omega)]
      exact ofNatural_int64 hlarge
  | .array items, depth + 1, h, hdepth => by
    rw [toJson, plainOfJson?, plainItems?_itemsToJson items h (Nat.le_of_succ_le_succ hdepth)]
    rfl
  | .document fields, depth + 1, h, hdepth => by
    rw [toJson, plainOfJson?, plainFields?_fieldsToJson fields h.2 (Nat.le_of_succ_le_succ hdepth)]
    rfl
  | .array _, 0, _, hdepth | .document _, 0, _, hdepth => absurd hdepth (Nat.not_succ_le_zero _)

theorem plainItems?_itemsToJson : ∀ (items : List Value) {depth : Nat}, PortableItems items →
    Json.itemsNesting (itemsToJson items) ≤ depth →
    plainItems? depth (itemsToJson items) = some items
  | [], _, _, _ => rfl
  | v :: rest, depth, h, hdepth => by
    rw [itemsToJson, Json.itemsNesting] at hdepth
    rw [itemsToJson, plainItems?, plainOfJson?_toJson v h.1 (by omega),
      plainItems?_itemsToJson rest h.2 (by omega)]
    rfl

theorem plainFields?_fieldsToJson : ∀ (fields : List (String × Value)) {depth : Nat},
    PortableFields fields → Json.fieldsNesting (fieldsToJson fields) ≤ depth →
    plainFields? depth (fieldsToJson fields) = some fields
  | [], _, _, _ => rfl
  | (key, v) :: rest, depth, h, hdepth => by
    rw [fieldsToJson, Json.fieldsNesting] at hdepth
    rw [fieldsToJson, plainFields?, plainOfJson?_toJson v h.2.1 (by omega),
      plainFields?_fieldsToJson rest h.2.2 (by omega)]
    rfl

end

end Value

namespace Tagged

variable {strict : Bool} {key : String}

/-- Only keys that begin with the mark of a tag are looked at as tags. -/
theorem named?_of_head? (h : key.toList.head? ≠ some '$') (v : Value) :
    named? strict key v = none := by
  unfold named?
  split
  all_goals first
    | rfl
    | exact absurd rfl h

theorem readFields_cons (h : key.toList.head? ≠ some '$') (done : Document) (v : Value)
    (rest : List (String × Value)) :
    readFields strict done ((key, v) :: rest) =
      (read strict v).bind fun v => readFields strict (done.insert key v) rest := by
  have hcode : key ≠ "$code" := fun hkey => h (hkey ▸ rfl)
  have hscope : key ≠ "$scope" := fun hkey => h (hkey ▸ rfl)
  rw [readFields, named?_of_head? h]
  · rfl
  · exact fun _ hkey => hcode hkey
  · exact fun _ _ _ hkey => hcode hkey
  · exact hcode
  · exact fun _ _ _ _ hkey _ => hscope hkey
  · exact hscope

mutual

/-- A value without tags is read as it is. -/
theorem read_portable : ∀ v : Value, v.Portable → read strict v = some v
  | .null, _ | .bool _, _ | .string _, _ | .int32 _, _ | .int64 _, _ => rfl
  | .array items, h => by
    rw [read, readItems_portable items h]
    rfl
  | .document fields, h => readFields_portable fields [] h.1 h.2

theorem readItems_portable : ∀ items : List Value, Value.PortableItems items →
    readItems strict items = some items
  | [], _ => rfl
  | v :: rest, h => by
    rw [readItems, read_portable v h.1, readItems_portable rest h.2]
    rfl

theorem readFields_portable : ∀ (fields : List (String × Value)) (done : Document),
    (Document.keys (done ++ fields)).Nodup → Value.PortableFields fields →
    readFields strict done fields = some (.document (done ++ fields))
  | [], done, _, _ => by
    rw [List.append_nil]
    rfl
  | (key, v) :: rest, done, hnodup, h => by
    have hfresh : key ∉ Document.keys done := by
      intro hmem
      rw [Document.keys, List.map_append, List.nodup_append] at hnodup
      exact hnodup.2.2 key hmem key List.mem_cons_self rfl
    rw [readFields_cons h.1, read_portable v h.2.1, Option.bind_some,
      Document.insert_of_not_mem hfresh]
    have hsplit : done ++ (key, v) :: rest = done ++ [(key, v)] ++ rest := by simp
    rw [hsplit] at hnodup ⊢
    exact readFields_portable rest _ hnodup h.2.2

end

end Tagged

/-- Decoding undoes the encoding of a value, down to the depth that containers may be nested to. -/
theorem Value.ofJson?_toJson {v : Value} {depth : Nat} (h : v.Portable)
    (hdepth : v.toJson.nesting ≤ depth) : Value.ofJson? depth v.toJson = some v := by
  rw [Value.ofJson?, Value.plainOfJson?_toJson v h hdepth]
  exact Tagged.read_portable v h

end DocStore
