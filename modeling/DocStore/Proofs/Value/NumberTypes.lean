import DocStore.Proofs.Value.UniqueTexts
/-!
The types of the numbers in a value, which its text does not show. Values of one text are the same when the
types of their numbers are.
-/
namespace DocStore.Value

mutual

/-- The types of the numbers in a value, in order. -/
def numberTypes : Value → List NumberType
  | .array items => itemTypes items
  | .document fields => fieldTypes fields
  | v => v.numberType?.toList

def itemTypes : List Value → List NumberType
  | [] => []
  | v :: rest => numberTypes v ++ itemTypes rest

def fieldTypes : List (String × Value) → List NumberType
  | [] => []
  | (_, v) :: rest => numberTypes v ++ fieldTypes rest

end

theorem AlikeItems.refl (items : List Value) : AlikeItems items items := by
  induction items with
  | nil => exact .nil
  | cons v items ih => exact .cons (.same v) ih

theorem AlikeFields.refl (fields : List (String × Value)) : AlikeFields fields fields := by
  induction fields with
  | nil => exact .nil
  | cons field fields ih => exact .cons (.same field.2) ih

theorem Alike.items {items : List Value} {w : Value} (h : Alike (.array items) w) :
    ∃ items', w = .array items' ∧ AlikeItems items items' := by
  cases h with
  | same => exact ⟨items, rfl, .refl items⟩
  | number hv => exact hv.elim
  | array hitems => exact ⟨_, rfl, hitems⟩

theorem Alike.fields {fields : List (String × Value)} {w : Value} (h : Alike (.document fields) w) :
    ∃ fields', w = .document fields' ∧ AlikeFields fields fields' := by
  cases h with
  | same => exact ⟨fields, rfl, .refl fields⟩
  | number hv => exact hv.elim
  | document hfields => exact ⟨_, rfl, hfields⟩

theorem Alike.ne_array {v w : Value} (h : Alike v w) (hv : ∀ items, v ≠ .array items) (items : List Value) :
    w ≠ .array items := by
  rintro rfl
  cases h with
  | same => exact hv _ rfl
  | number _ hw => exact hw
  | array => exact hv _ rfl

theorem Alike.ne_document {v w : Value} (h : Alike v w) (hv : ∀ fields, v ≠ .document fields)
    (fields : List (String × Value)) : w ≠ .document fields := by
  rintro rfl
  cases h with
  | same => exact hv _ rfl
  | number _ hw => exact hw
  | document => exact hv _ rfl

theorem numberTypes_of_isNumeral {v : Value} (h : v.IsNumeral) :
    ∃ t, v.numberType? = some t ∧ numberTypes v = [t] := by
  cases v with
  | int32 | int64 | double | decimal => exact ⟨_, rfl, rfl⟩
  | _ => exact h.elim

mutual

/-- The numbers of a value are found one after the other at the front of a list of types. -/
theorem Alike.unique : ∀ {v w : Value} {ts us : List NumberType}, Alike v w →
    numberTypes v ++ ts = numberTypes w ++ us → v = w ∧ ts = us := by
  intro v w ts us h htypes
  cases h with
  | same => exact ⟨rfl, List.append_cancel_left htypes⟩
  | number hv hw htext =>
    obtain ⟨t, hv', ht⟩ := numberTypes_of_isNumeral hv
    obtain ⟨u, hw', hu⟩ := numberTypes_of_isNumeral hw
    rw [ht, hu] at htypes
    obtain ⟨rfl, hrest⟩ := List.cons.inj htypes
    exact ⟨eq_of_text hv hw (hv'.trans hw'.symm) htext, hrest⟩
  | array hitems =>
    rw [numberTypes, numberTypes] at htypes
    obtain ⟨rfl, hrest⟩ := hitems.unique htypes
    exact ⟨rfl, hrest⟩
  | document hfields =>
    rw [numberTypes, numberTypes] at htypes
    obtain ⟨rfl, hrest⟩ := hfields.unique htypes
    exact ⟨rfl, hrest⟩

theorem AlikeItems.unique : ∀ {items items' : List Value} {ts us : List NumberType},
    AlikeItems items items' → itemTypes items ++ ts = itemTypes items' ++ us →
    items = items' ∧ ts = us := by
  intro items items' ts us h htypes
  cases h with
  | nil => exact ⟨rfl, htypes⟩
  | cons hv hitems =>
    rw [itemTypes, itemTypes, List.append_assoc, List.append_assoc] at htypes
    obtain ⟨rfl, htail⟩ := hv.unique htypes
    obtain ⟨rfl, hrest⟩ := hitems.unique htail
    exact ⟨rfl, hrest⟩

theorem AlikeFields.unique : ∀ {fields fields' : List (String × Value)} {ts us : List NumberType},
    AlikeFields fields fields' → fieldTypes fields ++ ts = fieldTypes fields' ++ us →
    fields = fields' ∧ ts = us := by
  intro fields fields' ts us h htypes
  cases h with
  | nil => exact ⟨rfl, htypes⟩
  | cons hv hfields =>
    rw [fieldTypes, fieldTypes, List.append_assoc, List.append_assoc] at htypes
    obtain ⟨rfl, htail⟩ := hv.unique htypes
    obtain ⟨rfl, hrest⟩ := hfields.unique htail
    exact ⟨rfl, hrest⟩

end

end DocStore.Value
