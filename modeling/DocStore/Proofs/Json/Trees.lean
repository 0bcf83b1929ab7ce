import DocStore.Proofs.Json.Literals
/-!
Trees that their text keeps. Reading follows the text of a tree up to its last character, whatever
comes after it, in no more steps than the text has characters.
-/
namespace DocStore.Json

mutual

/-- Whether nothing of a tree is lost when it is written: only whole numbers, strings and keys that
are complete, and less than zero what is written with a sign. -/
def Readable : Json → Prop
  | .null | .bool _ | .natural _ | .text (some _) => True
  | .negative n => n.toInt < 0
  | .double _ | .overflow | .text none => False
  | .array items => ReadableItems items
  | .object fields => ReadableFields fields

def ReadableItems : List Json → Prop
  | [] => True
  | v :: rest => Readable v ∧ ReadableItems rest

def ReadableFields : List (Option String × Json) → Prop
  | [] => True
  | (key, v) :: rest => key.isSome ∧ Readable v ∧ ReadableFields rest

end

/-- How a value starts: with no blank, and not with the end of the array it may be in. -/
def Opens : List Char → Prop
  | [] => False
  | c :: _ => isBlank c = false ∧ c ≠ ']'

variable {cs rest : List Char} {fuel : Nat} {v : Json}

theorem Opens.append (h : Opens cs) (rest : List Char) : Opens (cs ++ rest) := by
  cases cs with
  | nil => exact h.elim
  | cons c cs => exact h

theorem Opens.length_pos (h : Opens cs) : 0 < cs.length := by
  cases cs with
  | nil => exact h.elim
  | cons c cs => exact Nat.succ_pos _

theorem Opens.skip_append (h : Opens cs) (rest : List Char) : skip (cs ++ rest) = cs ++ rest := by
  cases cs with
  | nil => exact h.elim
  | cons c cs => exact List.dropWhile_cons_of_neg (by rw [h.1]; decide)

section Texts

-- Texts are not to be computed when a proof splits the list they are of.

/-- What stands between the brackets of an array. -/
@[irreducible]
def itemsText (items : List Json) : List Char := (",".intercalate (writeItems items)).toList

/-- What stands between the braces of an object. -/
@[irreducible]
def fieldsText (fields : List (Option String × Json)) : List Char :=
  (",".intercalate (writeFields fields)).toList

/-- The text of a key and its value. -/
def fieldText (key : String) (v : Json) : List Char :=
  '"' :: (escaped key ++ '"' :: ':' :: v.write.toList)

theorem toList_array (items : List Json) :
    (write (.array items)).toList = '[' :: (itemsText items ++ [']']) := by
  simp [write, itemsText]

theorem toList_object (fields : List (Option String × Json)) :
    (write (.object fields)).toList = '\x7b' :: (fieldsText fields ++ ['\x7d']) := by
  simp [write, fieldsText]

theorem toList_field (key : String) (v : Json) :
    (quote key ++ ":" ++ v.write).toList = fieldText key v := by
  rw [String.toList_append, String.toList_append, toList_quote]
  simp [fieldText]

theorem length_write_le_fieldText (key : String) (v : Json) :
    v.write.toList.length ≤ (fieldText key v).length := by
  simp only [fieldText, List.length_cons, List.length_append]
  omega

theorem toList_commas (first second : String) (texts : List String) :
    (",".intercalate (first :: second :: texts)).toList =
      first.toList ++ ',' :: (",".intercalate (second :: texts)).toList := by
  rw [String.intercalate_cons_cons, String.toList_append, String.toList_append, List.append_assoc]
  rfl

theorem itemsText_singleton (v : Json) : itemsText [v] = v.write.toList := by
  rw [itemsText]
  exact congrArg String.toList String.intercalate_singleton

theorem itemsText_cons_cons (v w : Json) (items : List Json) :
    itemsText (v :: w :: items) = v.write.toList ++ ',' :: itemsText (w :: items) := by
  rw [itemsText, itemsText]
  exact toList_commas _ _ _

theorem fieldsText_singleton (key : String) (v : Json) :
    fieldsText [(some key, v)] = fieldText key v := by
  rw [← toList_field, fieldsText]
  exact congrArg String.toList String.intercalate_singleton

theorem fieldsText_cons_cons (key : String) (v : Json) (field : Option String × Json)
    (fields : List (Option String × Json)) :
    fieldsText ((some key, v) :: field :: fields) =
      fieldText key v ++ ',' :: fieldsText (field :: fields) := by
  rw [← toList_field, fieldsText, fieldsText]
  exact toList_commas _ _ _

/-- The characters that a number is told by. -/
def StartsNumber (c : Char) : Prop := c.isDigit = true ∨ c = '-'

theorem StartsNumber.ne {c d : Char} (h : StartsNumber c)
    (hd : d.isDigit = false ∧ d ≠ '-') : c ≠ d := by
  rintro rfl
  rcases h with hdigit | hminus
  · exact absurd (hdigit.symm.trans hd.1) (by decide)
  · exact hd.2 hminus

theorem startsNumber_toDigits (n : Nat) :
    ∃ c tail, Nat.toDigits 10 n = c :: tail ∧ StartsNumber c := by
  cases hdigits : Nat.toDigits 10 n with
  | nil => exact absurd hdigits Nat.toDigits_ne_nil
  | cons c tail =>
    exact ⟨c, tail, rfl, .inl <|
      Nat.isDigit_of_mem_toDigits (by decide) (by decide) (hdigits ▸ List.mem_cons_self)⟩

theorem opens_of_startsNumber {c : Char} (h : StartsNumber c) : Opens (c :: cs) := by
  refine ⟨?_, h.ne (by decide)⟩
  have hspace := h.ne (d := ' ') (by decide)
  have hline := h.ne (d := '\n') (by decide)
  have htab := h.ne (d := '\t') (by decide)
  have hreturn := h.ne (d := '\r') (by decide)
  simp [isBlank, hspace, hline, htab, hreturn]

/-- A number is what starts with none of the other marks. -/
theorem value_number {c : Char} (h : StartsNumber c) :
    value (fuel + 1) (c :: cs) = number (c :: cs) := by
  have hopens : Opens (c :: cs) := opens_of_startsNumber h
  have hskip := hopens.skip_append []
  rw [List.append_nil] at hskip
  rw [value, hskip]
  split
  all_goals first
    | rfl
    | (rename_i hcs
       exact absurd (List.cons.inj hcs).1 (h.ne (by decide)))

theorem Readable.opens (h : v.Readable) : Opens v.write.toList := by
  cases v with
  | null => exact ⟨rfl, by decide⟩
  | bool b => cases b <;> exact ⟨rfl, by decide⟩
  | natural n =>
    obtain ⟨c, tail, hdigits, hstart⟩ := startsNumber_toDigits n.toNat
    rw [write, Nat.toString_eq_ofList_toDigits, String.toList_ofList, hdigits]
    exact opens_of_startsNumber hstart
  | negative n =>
    rw [write, toString_negative h]
    exact opens_of_startsNumber (.inr rfl)
  | text s =>
    cases s with
    | none => exact h.elim
    | some s =>
      rw [write, toList_quote]
      exact ⟨rfl, by decide⟩
  | double | overflow => exact h.elim
  | array items =>
    rw [toList_array]
    exact ⟨rfl, by decide⟩
  | object fields =>
    rw [toList_object]
    exact ⟨rfl, by decide⟩

end Texts

section Steps

variable {key : String} {done : List Json} {known : List (Option String × Json)}

theorem value_text (s : String) :
    value (fuel + 1) ((quote s).toList ++ rest) = some (.text (some s), rest) := by
  rw [toList_quote, List.cons_append, List.append_assoc, List.singleton_append]
  change (string (escaped s ++ '"' :: rest)).map _ = _
  rw [string_escaped]
  rfl

theorem value_natural (n : UInt64) (hrest : Closes rest) :
    value (fuel + 1) ((write (.natural n)).toList ++ rest) = some (.natural n, rest) := by
  have hread := number_natural n hrest
  obtain ⟨c, tail, hdigits, hstart⟩ := startsNumber_toDigits n.toNat
  rw [write]
  rw [Nat.toString_eq_ofList_toDigits, String.toList_ofList, hdigits] at hread ⊢
  exact (value_number hstart).trans hread

theorem value_negative (n : Int64) (h : n.toInt < 0) (hrest : Closes rest) :
    value (fuel + 1) ((write (.negative n)).toList ++ rest) = some (.negative n, rest) := by
  have hread := number_negative n h hrest
  rw [write]
  rw [toString_negative h] at hread ⊢
  exact (value_number (.inr rfl)).trans hread

theorem value_items (h : Opens cs) :
    value (fuel + 1) ('[' :: (cs ++ rest)) = items fuel [] (cs ++ rest) := by
  have hstart : skip ('[' :: (cs ++ rest)) = '[' :: (cs ++ rest) := rfl
  rw [value, hstart]
  split
  case h_2 tail htail =>
    obtain ⟨-, rfl⟩ := List.cons.inj htail
    rw [h.skip_append]
    cases cs with
    | nil => exact h.elim
    | cons c cs =>
      split
      · rename_i hcs
        exact absurd (List.cons.inj hcs).1 h.2
      · rfl
  case h_7 _ hlist _ _ _ _ => exact (hlist _ rfl).elim
  all_goals
    rename_i htail
    exact absurd (List.cons.inj htail).1 (by decide)

theorem items_comma (h : value fuel cs = some (v, ',' :: rest)) :
    items (fuel + 1) done cs = items fuel (v :: done) rest := by
  rw [items, h]
  rfl

theorem items_close (h : value fuel cs = some (v, ']' :: rest)) :
    items (fuel + 1) done cs = some (.array (done.reverse ++ [v]), rest) := by
  rw [items, h, ← List.reverse_cons]
  rfl

theorem fields_eq (cs : List Char) :
    fields (fuel + 1) known ('"' :: (escaped key ++ '"' :: ':' :: cs)) =
      (value fuel cs).bind fun (v, rest) =>
        match skip rest with
        | ',' :: rest => fields fuel ((some key, v) :: known) rest
        | '\x7d' :: rest => some (.object ((some key, v) :: known).reverse, rest)
        | _ => none := by
  have hstart : skip ('"' :: (escaped key ++ '"' :: ':' :: cs)) =
      '"' :: (escaped key ++ '"' :: ':' :: cs) := rfl
  rw [fields, hstart]
  split
  · rename_i text htext
    obtain ⟨-, rfl⟩ := List.cons.inj htext
    rw [string_escaped]
    rfl
  · rename_i hquote
    exact absurd rfl (hquote _)

theorem fields_comma (h : value fuel (v.write.toList ++ cs) = some (v, ',' :: rest)) :
    fields (fuel + 1) known (fieldText key v ++ cs) = fields fuel ((some key, v) :: known) rest := by
  rw [fieldText, List.cons_append, List.append_assoc, List.cons_append, List.cons_append, fields_eq,
    h]
  rfl

theorem fields_close (h : value fuel (v.write.toList ++ cs) = some (v, '\x7d' :: rest)) :
    fields (fuel + 1) known (fieldText key v ++ cs) =
      some (.object (known.reverse ++ [(some key, v)]), rest) := by
  rw [fieldText, List.cons_append, List.append_assoc, List.cons_append, List.cons_append, fields_eq,
    h, ← List.reverse_cons]
  rfl

theorem value_fields (key : String) (v : Json) (fields : List (Option String × Json)) :
    value (fuel + 1) ('\x7b' :: (fieldsText ((some key, v) :: fields) ++ rest)) =
      Json.fields fuel [] (fieldsText ((some key, v) :: fields) ++ rest) := by
  cases fields with
  | nil =>
    rw [fieldsText_singleton]
    rfl
  | cons field fields =>
    rw [fieldsText_cons_cons]
    rfl

end Steps

theorem ReadableItems.opens {items : List Json} (h : ReadableItems (v :: items)) :
    Opens (itemsText (v :: items)) := by
  cases items with
  | nil =>
    rw [itemsText_singleton]
    exact Readable.opens h.1
  | cons w items =>
    rw [itemsText_cons_cons]
    exact (Readable.opens h.1).append _

mutual

/-- A value is read off the front of any text that goes on as a container may. -/
theorem value_write : ∀ (v : Json) {fuel : Nat} {rest : List Char}, v.Readable →
    v.write.toList.length ≤ fuel → Closes rest →
    value fuel (v.write.toList ++ rest) = some (v, rest) := by
  intro v fuel rest h hfuel hrest
  obtain ⟨fuel, rfl⟩ : ∃ more, fuel = more + 1 :=
    Nat.exists_eq_add_one.mpr (Nat.lt_of_lt_of_le h.opens.length_pos hfuel)
  match v with
  | .null => rfl
  | .bool b => cases b <;> rfl
  | .natural n => exact value_natural n hrest
  | .negative n => exact value_negative n h hrest
  | .text (some s) =>
    rw [write]
    exact value_text s
  | .text none | .double _ | .overflow => exact h.elim
  | .array [] => rfl
  | .array (v :: items) =>
    rw [toList_array, List.length_cons, List.length_append, List.length_singleton] at hfuel
    rw [toList_array, List.cons_append, List.append_assoc, List.singleton_append,
      value_items (ReadableItems.opens h)]
    exact items_write (v :: items) (List.cons_ne_nil _ _) h (Nat.le_of_succ_le_succ hfuel)
  | .object [] => rfl
  | .object ((none, _) :: _) => exact absurd h.1 (by decide)
  | .object ((some key, v) :: fields) =>
    rw [toList_object, List.length_cons, List.length_append, List.length_singleton] at hfuel
    rw [toList_object, List.cons_append, List.append_assoc, List.singleton_append, value_fields]
    exact fields_write ((some key, v) :: fields) (List.cons_ne_nil _ _) h
      (Nat.le_of_succ_le_succ hfuel)

theorem items_write : ∀ (items : List Json) {fuel : Nat} {done : List Json} {rest : List Char},
    items ≠ [] → ReadableItems items → (itemsText items).length + 1 ≤ fuel →
    Json.items fuel done (itemsText items ++ ']' :: rest) =
      some (.array (done.reverse ++ items), rest) := by
  intro items fuel done rest hne h hfuel
  obtain ⟨fuel, rfl⟩ : ∃ more, fuel = more + 1 :=
    Nat.exists_eq_add_one.mpr (Nat.lt_of_lt_of_le (Nat.succ_pos _) hfuel)
  match items with
  | [] => exact absurd rfl hne
  | [v] =>
    rw [itemsText_singleton] at hfuel ⊢
    exact items_close (value_write v h.1 (Nat.le_of_succ_le_succ hfuel) (.inr (.inl rfl)))
  | v :: w :: items =>
    rw [itemsText_cons_cons, List.length_append, List.length_cons] at hfuel
    rw [itemsText_cons_cons, List.append_assoc, List.cons_append,
      items_comma (value_write v h.1 (by omega) (.inl rfl)),
      items_write (w :: items) (List.cons_ne_nil _ _) h.2 (by omega), List.reverse_cons,
      List.append_assoc, List.singleton_append]

theorem fields_write : ∀ (fields : List (Option String × Json)) {fuel : Nat}
    {known : List (Option String × Json)} {rest : List Char},
    fields ≠ [] → ReadableFields fields → (fieldsText fields).length + 1 ≤ fuel →
    Json.fields fuel known (fieldsText fields ++ '\x7d' :: rest) =
      some (.object (known.reverse ++ fields), rest) := by
  intro fields fuel known rest hne h hfuel
  obtain ⟨fuel, rfl⟩ : ∃ more, fuel = more + 1 :=
    Nat.exists_eq_add_one.mpr (Nat.lt_of_lt_of_le (Nat.succ_pos _) hfuel)
  match fields with
  | [] => exact absurd rfl hne
  | (none, _) :: _ => exact absurd h.1 (by decide)
  | [(some key, v)] =>
    rw [fieldsText_singleton] at hfuel ⊢
    have hlength := length_write_le_fieldText key v
    exact fields_close (value_write v h.2.1 (by omega) (.inr (.inr rfl)))
  | (some key, v) :: field :: fields =>
    rw [fieldsText_cons_cons, List.length_append, List.length_cons] at hfuel
    have hlength := length_write_le_fieldText key v
    rw [fieldsText_cons_cons, List.append_assoc, List.cons_append,
      fields_comma (value_write v h.2.1 (by omega) (.inl rfl)),
      fields_write (field :: fields) (List.cons_ne_nil _ _) h.2.2 (by omega), List.reverse_cons,
      List.append_assoc, List.singleton_append]

end

/-- Writing loses nothing of a readable tree. -/
theorem ofText?_write (h : v.Readable) : ofText? v.write = some v := by
  have hread : value (v.write.toList.length + 2) (v.write.toList ++ []) = some (v, []) :=
    value_write v h (Nat.le_add_right _ 2) trivial
  rw [List.append_nil] at hread
  rw [ofText?, hread]
  rfl

end DocStore.Json
