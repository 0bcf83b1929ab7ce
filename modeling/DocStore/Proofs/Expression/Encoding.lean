import DocStore.Expression.Json
import DocStore.Query.OptionJson
import DocStore.Proofs.Value.Encoding
/-!
Expressions and query options in JSON text. Decoding undoes the encoding of all options, and of
expressions whose values JSON keeps and whose text is not nested too deeply.
-/
namespace DocStore

namespace Expression

mutual

/-- Whether JSON keeps all values of an expression. -/
def Portable : Expression → Prop
  | .predicate _ _ value => value.Portable
  | .all parts => PortableParts parts
  | .any parts => PortableParts parts

def PortableParts : List Expression → Prop
  | [] => True
  | e :: rest => Portable e ∧ PortableParts rest

end

mutual

theorem readable_toJson : ∀ e : Expression, e.Portable → e.toJson.Readable
  | .predicate _ _ value, h =>
    ⟨rfl, ⟨rfl, trivial, rfl, trivial, rfl, value.readable_toJson h, trivial⟩, trivial⟩
  | .all parts, h => ⟨rfl, readable_partsToJson parts h, trivial⟩
  | .any parts, h => ⟨rfl, readable_partsToJson parts h, trivial⟩

theorem readable_partsToJson : ∀ parts : List Expression,
    PortableParts parts → Json.ReadableItems (partsToJson parts)
  | [], _ => trivial
  | e :: rest, h => ⟨readable_toJson e h.1, readable_partsToJson rest h.2⟩

end

theorem contentDepth?_add_two (depth : Nat) : contentDepth? (depth + 2) = some depth :=
  if_pos (Nat.le_add_left 2 depth)

/-- Every expression is two containers around its content. -/
theorem nesting_predicate (field : String) (operator : Operator) (value : Value) :
    (predicate field operator value).toJson.nesting = value.toJson.nesting + 2 := by
  simp [toJson, Json.ofFields, Json.ofString, Json.nesting, Json.fieldsNesting]

theorem nesting_all (parts : List Expression) :
    (all parts).toJson.nesting = Json.itemsNesting (partsToJson parts) + 2 := by
  simp [toJson, Json.ofFields, Json.nesting, Json.fieldsNesting]

theorem nesting_any (parts : List Expression) :
    (any parts).toJson.nesting = Json.itemsNesting (partsToJson parts) + 2 := by
  simp [toJson, Json.ofFields, Json.nesting, Json.fieldsNesting]

theorem ofJson?_predicate (depth : Nat) (field : String) (operator : Operator) (value : Value) :
    ofJson? (depth + 2) (predicate field operator value).toJson =
      (Value.ofJson? depth value.toJson).map (predicate field operator) := by
  have hrecord : Json.record? ["field", "operator", "value"] (.ofFields [("field", .ofString field),
      ("operator", .ofString operator.name), ("value", value.toJson)]) =
      some [.ofString field, .ofString operator.name, value.toJson] := rfl
  have htree : (predicate field operator value).toJson = .object [(some "predicate",
      .ofFields [("field", .ofString field), ("operator", .ofString operator.name),
        ("value", value.toJson)])] := rfl
  rw [htree, ofJson?, contentDepth?_add_two, hrecord]
  change (Value.ofJson? depth value.toJson).bind (fun v =>
    some (predicate field (Operator.ofName operator.name) v)) = _
  rw [Operator.ofName_name]
  exact Option.map_eq_bind.symm

theorem ofJson?_all (depth : Nat) (parts : List Expression) :
    ofJson? (depth + 2) (all parts).toJson = (partsOfJson? depth (partsToJson parts)).map all := by
  have htree : (all parts).toJson = .object [(some "and", .array (partsToJson parts))] := rfl
  rw [htree, ofJson?, contentDepth?_add_two]
  exact Option.map_eq_bind.symm

theorem ofJson?_any (depth : Nat) (parts : List Expression) :
    ofJson? (depth + 2) (any parts).toJson = (partsOfJson? depth (partsToJson parts)).map any := by
  have htree : (any parts).toJson = .object [(some "or", .array (partsToJson parts))] := rfl
  rw [htree, ofJson?, contentDepth?_add_two]
  exact Option.map_eq_bind.symm

mutual

theorem ofJson?_toJson : ∀ (e : Expression) {depth : Nat}, e.Portable →
    e.toJson.nesting ≤ depth → ofJson? depth e.toJson = some e
  | .predicate field operator value, depth, h, hdepth => by
    rw [nesting_predicate] at hdepth
    obtain ⟨depth, rfl⟩ := Nat.exists_eq_add_of_le' (Nat.le_of_add_left_le hdepth)
    rw [ofJson?_predicate, Value.ofJson?_toJson h (Nat.le_of_add_le_add_right hdepth)]
    rfl
  | .all parts, depth, h, hdepth => by
    rw [nesting_all] at hdepth
    obtain ⟨depth, rfl⟩ := Nat.exists_eq_add_of_le' (Nat.le_of_add_left_le hdepth)
    rw [ofJson?_all, partsOfJson?_partsToJson parts h (Nat.le_of_add_le_add_right hdepth)]
    rfl
  | .any parts, depth, h, hdepth => by
    rw [nesting_any] at hdepth
    obtain ⟨depth, rfl⟩ := Nat.exists_eq_add_of_le' (Nat.le_of_add_left_le hdepth)
    rw [ofJson?_any, partsOfJson?_partsToJson parts h (Nat.le_of_add_le_add_right hdepth)]
    rfl

theorem partsOfJson?_partsToJson : ∀ (parts : List Expression) {depth : Nat}, PortableParts parts →
    Json.itemsNesting (partsToJson parts) ≤ depth →
    partsOfJson? depth (partsToJson parts) = some parts
  | [], _, _, _ => rfl
  | e :: rest, depth, h, hdepth => by
    rw [partsToJson, Json.itemsNesting] at hdepth
    rw [partsToJson, partsOfJson?, ofJson?_toJson e h.1 (by omega),
      partsOfJson?_partsToJson rest h.2 (by omega)]
    rfl

end

theorem ofText?_toText {e : Expression} (h : e.Portable) (hdepth : e.toJson.nesting ≤ Json.maxDepth) :
    ofText? e.toText = some e := by
  rw [ofText?, toText, Json.ofText?_write (readable_toJson e h)]
  exact ofJson?_toJson e h hdepth

end Expression

namespace QueryOption

theorem readable_texts (names : List String) : Json.ReadableItems (names.map .ofString) := by
  induction names with
  | nil => trivial
  | cons name names ih => exact ⟨trivial, ih⟩

theorem readable_toJson (option : QueryOption) : option.toJson.Readable := by
  cases option with
  | firstRow => trivial
  | maxRows n => exact ⟨rfl, Json.readable_ofInt64 n, trivial⟩
  | fields names => exact ⟨rfl, readable_texts names, trivial⟩
  | sort field direction =>
    cases direction <;> exact ⟨rfl, ⟨rfl, trivial, rfl, trivial, trivial⟩, trivial⟩
  | caseSensitive sensitive => exact ⟨rfl, trivial, trivial⟩

theorem readable_list (options : List QueryOption) :
    Json.ReadableItems (options.map toJson) := by
  induction options with
  | nil => trivial
  | cons option options ih => exact ⟨option.readable_toJson, ih⟩

theorem mapM_texts (names : List String) :
    (names.map Json.ofString).mapM Json.text? = some names := by
  induction names with
  | nil => rfl
  | cons name names ih =>
    rw [List.map_cons, List.mapM_cons, ih]
    rfl

theorem ofJson?_toJson (option : QueryOption) : ofJson? option.toJson = some option := by
  cases option with
  | firstRow => rfl
  | maxRows n =>
    change (Json.int64? (.ofInt64 n)).bind (fun n => some (maxRows n)) = _
    rw [Json.int64?_ofInt64]
    rfl
  | fields names =>
    change ((names.map Json.ofString).mapM Json.text?).bind (fun names => some (fields names)) = _
    rw [mapM_texts]
    rfl
  | sort field direction => cases direction <;> rfl
  | caseSensitive sensitive => rfl

theorem mapM_toJson (options : List QueryOption) : (options.map toJson).mapM ofJson? = some options := by
  induction options with
  | nil => rfl
  | cons option options ih =>
    rw [List.map_cons, List.mapM_cons, ofJson?_toJson, ih]
    rfl

theorem listOfText?_listToText (options : List QueryOption) :
    listOfText? (listToText options) = some options := by
  have hread : Json.ofText? (listToText options) = some (.array (options.map toJson)) :=
    Json.ofText?_write (v := .array (options.map toJson)) (readable_list options)
  rw [listOfText?, hread]
  exact mapM_toJson options

end QueryOption

/-- What is written as JSON text is read as it was: query options of any kind, and expressions whose
values JSON keeps, as deep as containers may be nested. -/
theorem texts_decode :
    (∀ options : List QueryOption,
      QueryOption.listOfText? (QueryOption.listToText options) = some options) ∧
    ∀ e : Expression, e.Portable → e.toJson.nesting ≤ Json.maxDepth →
      Expression.ofText? e.toText = some e :=
  ⟨QueryOption.listOfText?_listToText, fun _ h hdepth => Expression.ofText?_toText h hdepth⟩

theorem texts_decode_nested :
    let e : Expression := .all [
      .any [.predicate "title\n\"é\\" .contains (.string "\x01\x7f𝄞"), .all []],
      .predicate "" .isIn (.array [.int32 5, .int64 (-1), .null,
        .document [("größe", .int64 0x80000000), ("\t", .array [.bool true])]])]
    Expression.ofText? e.toText = some e :=
  texts_decode.2 _
    ⟨⟨trivial, trivial, trivial⟩,
      ⟨show 0 ≤ Int32.toInt 5 by decide, .inl (by decide), trivial,
        ⟨by decide, by decide, .inr (by decide), by decide, ⟨trivial, trivial⟩, trivial⟩, trivial⟩,
      trivial⟩
    (by decide)

end DocStore
