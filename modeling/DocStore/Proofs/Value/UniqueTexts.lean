import DocStore.Proofs.Text.Base64
import DocStore.Proofs.Text.Hex
import DocStore.Proofs.Time.Instants
import DocStore.Proofs.Value.NumberTexts
/-!
Texts that tell values apart. Strings and keys stand in the text of a value as they are, so that a quote in
one of them can look like its end. Of values without such strings the text is read in one way only, up to
the types of their numbers.
-/
namespace DocStore

open Text

/-- No quote in a string is followed by what may follow the quote behind it. -/
def QuoteSafe (ends : List (List Char)) (s : String) : Prop := ∀ e ∈ ends, ¬('"' :: e) <:+: s.toList

instance (ends : List (List Char)) (s : String) : Decidable (QuoteSafe ends s) :=
  inferInstanceAs (Decidable (∀ e ∈ ends, ¬('"' :: e) <:+: s.toList))

theorem toList_quoted (s : String) : (quoted s).toList = '"' :: (s.toList ++ ['"']) := by
  simp [quoted]

variable {ends : List (List Char)} {rest rest' : List Char}

/-- A string between quotes ends at its last quote. -/
theorem unique_quoted {s t : String} (hends : ∀ e ∈ ends, '"' ∉ e) (hs : QuoteSafe ends s)
    (ht : QuoteSafe ends t) (hrest : ∃ e ∈ ends, e <+: rest) (hrest' : ∃ e ∈ ends, e <+: rest')
    (heq : (quoted s).toList ++ rest = (quoted t).toList ++ rest') : s = t ∧ rest = rest' := by
  simp only [toList_quoted, List.cons_append, List.append_assoc, List.nil_append, List.cons.injEq,
    true_and] at heq
  obtain ⟨hpart, hrest⟩ :=
    (endsAt_of_no_occurrence hends hs hrest).unique (endsAt_of_no_occurrence hends ht hrest') heq
  exact ⟨String.toList_inj.1 hpart, List.tail_eq_of_cons_eq hrest⟩

theorem ObjectId.unique_hex {id id' : ObjectId} (heq : id.hex.toList ++ rest = id'.hex.toList ++ rest') :
    id = id' ∧ rest = rest' := by
  rw [hex, hex, String.toList_ofList, String.toList_ofList] at heq
  obtain ⟨hdigits, hrest⟩ := List.append_inj heq (by rw [Hex.length_fixed, Hex.length_fixed])
  have hfits (id : ObjectId) : id.number.toNat % 16 ^ 24 = id.number.toNat := Nat.mod_eq_of_lt id.number.isLt
  have hnumber := congrArg Hex.number? hdigits
  rw [Hex.number?_fixed, Hex.number?_fixed, hfits, hfits] at hnumber
  refine ⟨?_, hrest⟩
  cases id; cases id'
  exact congrArg _ (BitVec.eq_of_toNat_eq (Option.some.inj hnumber))

namespace Value

/-- What may stand behind a value: the next item or field, or the end of the document or the array that the
value is in. -/
def closings : List (List Char) := [[',', ' '], [' ', '\x7d'], [']']]

def Closes (rest : List Char) : Prop := ∃ e ∈ closings, e <+: rest

/-- A character that nothing but the text of a value may stand before. -/
def IsMark (c : Char) : Prop := c ∈ [',', ' ', ']']

instance : DecidablePred IsMark := fun c => inferInstanceAs (Decidable (c ∈ [',', ' ', ']']))

theorem Closes.startsWith (h : Closes rest) : StartsWith IsMark rest := by
  obtain ⟨e, he, tail, rfl⟩ := h
  simp only [closings, List.mem_cons, List.not_mem_nil, or_false] at he
  rcases he with rfl | rfl | rfl
  · exact ⟨',', rfl, by decide⟩
  · exact ⟨' ', rfl, by decide⟩
  · exact ⟨']', rfl, by decide⟩

mutual

/-- Whether the parts of a value can be told in its text. Source code stands there without any sign of
what it is, and so does nothing else. -/
def Legible : Value → Prop
  | .null | .undefined | .minKey | .maxKey | .bool _ | .int32 _ | .int64 _ | .objectId _ | .dateTime _
  | .timestamp _ _ | .binary _ _ => True
  | .double x => IsNumeral (.double x)
  | .decimal x => IsNumeral (.decimal x)
  | .string s => QuoteSafe closings s
  | .symbol s => QuoteSafe [[')']] s
  | .regex pattern options => '/' ∉ pattern.toList ∧ ∀ c ∈ options.toList, ¬IsMark c
  | .dbPointer target _ => ',' ∉ target.toList
  | .code _ | .codeWithScope _ _ => False
  | .array items => LegibleItems items
  | .document fields => LegibleFields fields

def LegibleItems : List Value → Prop
  | [] => True
  | v :: rest => Legible v ∧ LegibleItems rest

def LegibleFields : List (String × Value) → Prop
  | [] => True
  | (key, v) :: rest => QuoteSafe [[':', ' ']] key ∧ Legible v ∧ LegibleFields rest

end

mutual

def decideLegible : (v : Value) → Decidable v.Legible
  | .null | .undefined | .minKey | .maxKey | .bool _ | .int32 _ | .int64 _ | .objectId _ | .dateTime _
  | .timestamp _ _ | .binary _ _ => .isTrue trivial
  | .double x => inferInstanceAs (Decidable (IsNumeral (.double x)))
  | .decimal x => inferInstanceAs (Decidable (IsNumeral (.decimal x)))
  | .string s => inferInstanceAs (Decidable (QuoteSafe closings s))
  | .symbol s => inferInstanceAs (Decidable (QuoteSafe [[')']] s))
  | .regex pattern options =>
    @instDecidableAnd ('/' ∉ pattern.toList) _ inferInstance (List.decidableBAll _ options.toList)
  | .dbPointer target _ => inferInstanceAs (Decidable (',' ∉ target.toList))
  | .code _ | .codeWithScope _ _ => .isFalse id
  | .array items => decideLegibleItems items
  | .document fields => decideLegibleFields fields

def decideLegibleItems : (items : List Value) → Decidable (LegibleItems items)
  | [] => .isTrue trivial
  | v :: rest => @instDecidableAnd _ _ (decideLegible v) (decideLegibleItems rest)

def decideLegibleFields : (fields : List (String × Value)) → Decidable (LegibleFields fields)
  | [] => .isTrue trivial
  | (key, v) :: rest =>
    @instDecidableAnd (QuoteSafe [[':', ' ']] key) _ inferInstance
      (@instDecidableAnd _ _ (decideLegible v) (decideLegibleFields rest))

end

instance : DecidablePred LegibleFields := decideLegibleFields

mutual

/-- Values of one text: numbers may have different types. -/
inductive Alike : Value → Value → Prop
  | same (v : Value) : Alike v v
  | number {v w : Value} : v.IsNumeral → w.IsNumeral → v.text = w.text → Alike v w
  | array {items items' : List Value} : AlikeItems items items' → Alike (.array items) (.array items')
  | document {fields fields' : List (String × Value)} :
    AlikeFields fields fields' → Alike (.document fields) (.document fields')

inductive AlikeItems : List Value → List Value → Prop
  | nil : AlikeItems [] []
  | cons {v w : Value} {items items' : List Value} :
    Alike v w → AlikeItems items items' → AlikeItems (v :: items) (w :: items')

inductive AlikeFields : List (String × Value) → List (String × Value) → Prop
  | nil : AlikeFields [] []
  | cons {key : String} {v w : Value} {fields fields' : List (String × Value)} :
    Alike v w → AlikeFields fields fields' → AlikeFields ((key, v) :: fields) ((key, w) :: fields')

end

section Texts

/-- The items of an array behind the first one, up to its end. -/
def itemsTail : List Value → List Char
  | [] => [']']
  | v :: rest => ',' :: ' ' :: (v.text.toList ++ itemsTail rest)

def fieldText (key : String) (v : Value) : List Char := (quoted key).toList ++ ':' :: ' ' :: v.text.toList

/-- The fields of a document behind the first one, up to its end. -/
def fieldsTail : List (String × Value) → List Char
  | [] => [' ', '\x7d']
  | (key, v) :: rest => ',' :: ' ' :: (fieldText key v ++ fieldsTail rest)

theorem toList_array_cons (v : Value) (items : List Value) :
    (text (.array (v :: items))).toList = '[' :: (v.text.toList ++ itemsTail items) := by
  have htail (v : Value) (items : List Value) :
      (", ".intercalate (itemTexts (v :: items))).toList ++ [']'] = v.text.toList ++ itemsTail items := by
    induction items generalizing v with
    | nil => simp [itemTexts, itemsTail]
    | cons w items ih =>
      rw [itemTexts, itemTexts, String.intercalate_cons_cons, ← itemTexts, itemsTail, ← ih w]
      simp
  rw [text, ← htail]
  simp

theorem toList_document_cons (key : String) (v : Value) (fields : List (String × Value)) :
    (text (.document ((key, v) :: fields))).toList =
      '\x7b' :: ' ' :: (fieldText key v ++ fieldsTail fields) := by
  have htail (key : String) (v : Value) (fields : List (String × Value)) :
      (", ".intercalate (fieldTexts ((key, v) :: fields))).toList ++ [' ', '\x7d'] =
        fieldText key v ++ fieldsTail fields := by
    induction fields generalizing key v with
    | nil => simp [fieldTexts, fieldsTail, fieldText]
    | cons field fields ih =>
      obtain ⟨key', w⟩ := field
      rw [fieldTexts, fieldTexts, String.intercalate_cons_cons, ← fieldTexts, fieldsTail, ← ih key' w]
      simp [fieldText]
  rw [text, ← htail, fieldTexts]
  simp

end Texts

section Kinds

/-- What the first characters of a text tell about a value. -/
inductive Kind where
  | null
  | undefined
  | minKey
  | maxKey
  | bool (b : Bool)
  | number
  | string
  | symbol
  | objectId
  | dateTime
  | timestamp
  | binary
  | regex
  | dbPointer
  | array
  | document

def kind? : Value → Option Kind
  | .null => some .null
  | .undefined => some .undefined
  | .minKey => some .minKey
  | .maxKey => some .maxKey
  | .bool b => some (.bool b)
  | .int32 _ | .int64 _ | .double _ | .decimal _ => some .number
  | .string _ => some .string
  | .symbol _ => some .symbol
  | .objectId _ => some .objectId
  | .dateTime _ => some .dateTime
  | .timestamp _ _ => some .timestamp
  | .binary _ _ => some .binary
  | .regex _ _ => some .regex
  | .dbPointer _ _ => some .dbPointer
  | .array _ => some .array
  | .document _ => some .document
  | .code _ | .codeWithScope _ _ => none

def kindOf? : List Char → Option Kind
  | 'n' :: _ => some .null
  | 'u' :: _ => some .undefined
  | 'M' :: 'i' :: _ => some .minKey
  | 'M' :: 'a' :: _ => some .maxKey
  | 't' :: _ => some (.bool true)
  | 'f' :: _ => some (.bool false)
  | '"' :: _ => some .string
  | 'S' :: _ => some .symbol
  | 'O' :: _ => some .objectId
  | 'D' :: 'a' :: _ => some .dateTime
  | 'D' :: 'b' :: _ => some .dbPointer
  | 'T' :: _ => some .timestamp
  | 'B' :: _ => some .binary
  | '/' :: _ => some .regex
  | '[' :: _ => some .array
  | '\x7b' :: _ => some .document
  | ']' :: _ => none
  | _ => some .number

theorem StartsNumber.ne {c d : Char} (h : StartsNumber c)
    (hd : d.isDigit = false ∧ d ∉ ['-', 'N', 'i', 'I']) : c ≠ d := by
  rintro rfl
  rcases h with hdigit | hmark
  · exact absurd (hdigit.symm.trans hd.1) (by decide)
  · exact hd.2 hmark

theorem kindOf?_number {c : Char} (h : StartsNumber c) (rest : List Char) :
    kindOf? (c :: rest) = some .number := by
  rw [kindOf?.eq_def]
  split
  all_goals first
    | rfl
    | (rename_i hcs
       exact absurd (List.cons.inj hcs).1 (h.ne (by decide)))

theorem kindOf?_text {v : Value} (h : v.Legible) (rest : List Char) :
    kindOf? (v.text.toList ++ rest) = v.kind? := by
  have hnumber {v : Value} (h : v.IsNumeral) : kindOf? (v.text.toList ++ rest) = some .number := by
    obtain ⟨c, hc, hstart⟩ := startsNumber_text h
    cases htext : v.text.toList with
    | nil => 
      rw [htext] at hc
      exact nomatch hc
    | cons d tail =>
      rw [htext] at hc
      obtain rfl := Option.some.inj hc
      exact kindOf?_number hstart _
  cases v with
  | int32 | int64 => exact hnumber trivial
  | double | decimal => exact hnumber h
  | bool b => cases b <;> rfl
  | code | codeWithScope => exact h.elim
  | array items =>
    cases items with
    | nil => rfl
    | cons v items => rw [toList_array_cons]; rfl
  | document fields =>
    match fields with
    | [] => rfl
    | (key, v) :: fields => rw [toList_document_cons]; rfl
  | _ => simp [text, kindOf?, kind?, quoted]

end Kinds

section Atoms

theorem not_isMark_of_mem {v : Value} (h : v.IsNumeral) : ∀ c ∈ v.text.toList, ¬IsMark c := by
  intro c hc hmark
  simp only [IsMark, List.mem_cons, List.not_mem_nil, or_false] at hmark
  rcases hmark with rfl | rfl | rfl
  all_goals exact notMem_text h (by unfold Reading.IsNumeralChar; decide) (by decide) hc

theorem unique_number {v w : Value} (hv : v.IsNumeral) (hw : w.IsNumeral) (hrest : Closes rest)
    (hrest' : Closes rest') (heq : v.text.toList ++ rest = w.text.toList ++ rest') :
    v.text = w.text ∧ rest = rest' := by
  obtain ⟨htext, hrest⟩ := (endsAt_of_forall (not_isMark_of_mem hv) hrest.startsWith).unique
    (endsAt_of_forall (not_isMark_of_mem hw) hrest'.startsWith) heq
  exact ⟨String.toList_inj.1 htext, hrest⟩

theorem unique_string {s t : String} (hs : Legible (.string s)) (ht : Legible (.string t))
    (hrest : Closes rest) (hrest' : Closes rest')
    (heq : (text (.string s)).toList ++ rest = (text (.string t)).toList ++ rest') :
    s = t ∧ rest = rest' := by
  rw [text, text] at heq
  exact unique_quoted (by decide) hs ht hrest hrest' heq

theorem unique_symbol {s t : String} (hs : Legible (.symbol s)) (ht : Legible (.symbol t))
    (heq : (text (.symbol s)).toList ++ rest = (text (.symbol t)).toList ++ rest') :
    s = t ∧ rest = rest' := by
  have hparen (rest : List Char) : ∃ e ∈ [[')']], e <+: ")".toList ++ rest :=
    ⟨[')'], List.mem_cons_self, rest, rfl⟩
  simp only [text, String.toList_append, List.append_assoc, List.append_cancel_left_eq] at heq
  obtain ⟨hstring, hrest⟩ := unique_quoted (by decide) hs ht (hparen rest) (hparen rest') heq
  exact ⟨hstring, List.append_cancel_left hrest⟩

theorem unique_objectId {id id' : ObjectId}
    (heq : (text (.objectId id)).toList ++ rest = (text (.objectId id')).toList ++ rest') :
    id = id' ∧ rest = rest' := by
  simp only [text, quoted, String.toList_append, List.append_assoc, List.append_cancel_left_eq] at heq
  obtain ⟨hid, hrest⟩ := ObjectId.unique_hex heq
  exact ⟨hid, List.append_cancel_left (List.append_cancel_left hrest)⟩

theorem unique_dateTime {millis millis' : Int64}
    (heq : (text (.dateTime millis)).toList ++ rest = (text (.dateTime millis')).toList ++ rest') :
    millis = millis' ∧ rest = rest' := by
  simp only [text, quoted, String.toList_append, List.append_assoc, List.append_cancel_left_eq] at heq
  obtain ⟨hmillis, hrest⟩ := Instant.unique_text heq
  exact ⟨Int64.toInt_inj.1 hmillis, List.append_cancel_left hrest⟩

theorem toList_comma (rest : List Char) : ", ".toList ++ rest = ',' :: ' ' :: rest := rfl

theorem unique_timestamp {time increment time' increment' : UInt32}
    (heq : (text (.timestamp time increment)).toList ++ rest =
      (text (.timestamp time' increment')).toList ++ rest') :
    time = time' ∧ increment = increment' ∧ rest = rest' := by
  have hcomma (rest : List Char) : EndsDigits (',' :: ' ' :: rest) := endsDigits_cons (by decide)
  have hparen (rest : List Char) : EndsDigits (")".toList ++ rest) :=
    endsDigits_cons (c := ')') (by decide)
  simp only [text, String.toList_append, List.append_assoc, List.append_cancel_left_eq, toList_comma,
    Nat.toString_eq_repr, Nat.toList_repr] at heq
  obtain ⟨htime, heq⟩ := unique_toDigits (hcomma _) (hcomma _) heq
  simp only [List.cons.injEq, true_and] at heq
  obtain ⟨hincrement, heq⟩ := unique_toDigits (hparen _) (hparen _) heq
  exact ⟨UInt32.toNat_inj.1 htime, UInt32.toNat_inj.1 hincrement, List.append_cancel_left heq⟩

theorem unique_binary {subtype subtype' : UInt8} {bytes bytes' : List UInt8}
    (heq : (text (.binary subtype bytes)).toList ++ rest =
      (text (.binary subtype' bytes')).toList ++ rest') :
    subtype = subtype' ∧ bytes = bytes' ∧ rest = rest' := by
  have hsubtypes : ∀ k : Fin 256, Hex.number? (Nat.toDigits 16 k) = some k.val ∧ ',' ∉ Nat.toDigits 16 k := by
    decide +kernel
  have hsubtype (n : UInt8) : Hex.number? (Nat.toDigits 16 n.toNat) = some n.toNat ∧
      ',' ∉ Nat.toDigits 16 n.toNat := hsubtypes ⟨n.toNat, n.toNat_lt⟩
  simp only [text, Base64.encode, String.toList_append, String.toList_ofList, List.append_assoc,
    List.append_cancel_left_eq, toList_comma] at heq
  obtain ⟨hdigits, heq⟩ := unique_of_notMem (hsubtype subtype).2 (hsubtype subtype').2 heq
  have hnumber : some subtype'.toNat = some subtype.toNat := by
    rw [← (hsubtype subtype').1, ← hdigits, (hsubtype subtype).1]
  obtain ⟨hbytes, heq⟩ := unique_of_notMem (Base64.notMem_encodeChars (by decide) (by decide) bytes)
    (Base64.notMem_encodeChars (by decide) (by decide) bytes') (List.cons.inj heq).2
  exact ⟨UInt8.toNat_inj.1 (Option.some.inj hnumber.symm), Base64.encodeChars_injective hbytes, heq⟩

theorem unique_regex {pattern options pattern' options' : String} (h : Legible (.regex pattern options))
    (h' : Legible (.regex pattern' options')) (hrest : Closes rest) (hrest' : Closes rest')
    (heq : (text (.regex pattern options)).toList ++ rest =
      (text (.regex pattern' options')).toList ++ rest') :
    pattern = pattern' ∧ options = options' ∧ rest = rest' := by
  simp only [text, String.toList_append, List.append_assoc, List.append_cancel_left_eq] at heq
  obtain ⟨hpattern, heq⟩ := unique_of_notMem h.1 h'.1 heq
  obtain ⟨hoptions, hrest⟩ := (endsAt_of_forall h.2 hrest.startsWith).unique
    (endsAt_of_forall h'.2 hrest'.startsWith) heq
  exact ⟨String.toList_inj.1 hpattern, String.toList_inj.1 hoptions, hrest⟩

theorem unique_dbPointer {target target' : String} {id id' : ObjectId} (h : Legible (.dbPointer target id))
    (h' : Legible (.dbPointer target' id'))
    (heq : (text (.dbPointer target id)).toList ++ rest =
      (text (.dbPointer target' id')).toList ++ rest') :
    target = target' ∧ id = id' ∧ rest = rest' := by
  simp only [text, String.toList_append, List.append_assoc, List.append_cancel_left_eq, toList_comma] at heq
  obtain ⟨htarget, heq⟩ := unique_of_notMem h h' heq
  obtain ⟨hid, heq⟩ := ObjectId.unique_hex (List.cons.inj heq).2
  exact ⟨String.toList_inj.1 htarget, hid, List.append_cancel_left heq⟩

end Atoms

section Unique

theorem isNumeral_of_kind? {v : Value} (h : v.Legible) (hkind : v.kind? = some .number) : v.IsNumeral := by
  cases v with
  | int32 | int64 => trivial
  | double | decimal => exact h
  | _ => exact nomatch hkind

theorem kind?_ne_none {v : Value} (h : v.Legible) : v.kind? ≠ none := by
  cases v with
  | code | codeWithScope => exact h.elim
  | _ => exact nofun

theorem closes_itemsTail (items : List Value) (rest : List Char) : Closes (itemsTail items ++ rest) := by
  cases items with
  | nil => exact ⟨[']'], by decide, rest, rfl⟩
  | cons v items => exact ⟨[',', ' '], by decide, v.text.toList ++ itemsTail items ++ rest, rfl⟩

theorem closes_fieldsTail (fields : List (String × Value)) (rest : List Char) :
    Closes (fieldsTail fields ++ rest) := by
  cases fields with
  | nil => exact ⟨[' ', '\x7d'], by decide, rest, rfl⟩
  | cons field fields =>
    obtain ⟨key, v⟩ := field
    exact ⟨[',', ' '], by decide, fieldText key v ++ fieldsTail fields ++ rest, rfl⟩

/-- A key ends at its last quote, and its value stands behind it. -/
theorem unique_fieldText {key key' : String} {v w : Value} (hkey : QuoteSafe [[':', ' ']] key)
    (hkey' : QuoteSafe [[':', ' ']] key') (heq : fieldText key v ++ rest = fieldText key' w ++ rest') :
    key = key' ∧ v.text.toList ++ rest = w.text.toList ++ rest' := by
  have hcolon (rest : List Char) : ∃ e ∈ [[':', ' ']], e <+: ':' :: ' ' :: rest :=
    ⟨[':', ' '], List.mem_cons_self, rest, rfl⟩
  simp only [fieldText, List.append_assoc, List.cons_append] at heq
  obtain ⟨hkeys, heq⟩ := unique_quoted (by decide) hkey hkey' (hcolon _) (hcolon _) heq
  simp only [List.cons.injEq, true_and] at heq
  exact ⟨hkeys, heq⟩

theorem unique_numeral {v w : Value} (hv : v.Legible) (hnumber : v.kind? = some .number) (hw : w.Legible)
    (hkind : w.kind? = v.kind?) (hrest : Closes rest) (hrest' : Closes rest')
    (heq : v.text.toList ++ rest = w.text.toList ++ rest') : Alike v w ∧ rest = rest' := by
  have hv' := isNumeral_of_kind? hv hnumber
  have hw' := isNumeral_of_kind? hw (hkind.trans hnumber)
  obtain ⟨htext, hrest⟩ := unique_number hv' hw' hrest hrest' heq
  exact ⟨.number hv' hw' htext, hrest⟩

/-- A value that holds no others is told by its text: its kind first, and its parts one after the other. -/
theorem unique_atom {v w : Value} (harray : ∀ items, v ≠ .array items)
    (hdocument : ∀ fields, v ≠ .document fields) (hv : v.Legible) (hw : w.Legible)
    (hkind : w.kind? = v.kind?) (hrest : Closes rest) (hrest' : Closes rest')
    (heq : v.text.toList ++ rest = w.text.toList ++ rest') :
    Alike v w ∧ rest = rest' := by
  cases v with
  | null =>
    cases w with
    | null => exact ⟨.same _, List.append_cancel_left heq⟩
    | _ => exact nomatch hkind
  | undefined =>
    cases w with
    | undefined => exact ⟨.same _, List.append_cancel_left heq⟩
    | _ => exact nomatch hkind
  | minKey =>
    cases w with
    | minKey => exact ⟨.same _, List.append_cancel_left heq⟩
    | _ => exact nomatch hkind
  | maxKey =>
    cases w with
    | maxKey => exact ⟨.same _, List.append_cancel_left heq⟩
    | _ => exact nomatch hkind
  | bool b =>
    cases w with
    | bool b' =>
      obtain rfl : b' = b := Kind.bool.inj (Option.some.inj hkind)
      exact ⟨.same _, List.append_cancel_left heq⟩
    | _ => exact nomatch hkind
  | int32 n => exact unique_numeral hv rfl hw hkind hrest hrest' heq
  | int64 n => exact unique_numeral hv rfl hw hkind hrest hrest' heq
  | double x => exact unique_numeral hv rfl hw hkind hrest hrest' heq
  | decimal x => exact unique_numeral hv rfl hw hkind hrest hrest' heq
  | string s =>
    cases w with
    | string t =>
      obtain ⟨rfl, hrest⟩ := unique_string hv hw hrest hrest' heq
      exact ⟨.same _, hrest⟩
    | _ => exact nomatch hkind
  | symbol s =>
    cases w with
    | symbol t =>
      obtain ⟨rfl, hrest⟩ := unique_symbol hv hw heq
      exact ⟨.same _, hrest⟩
    | _ => exact nomatch hkind
  | objectId id =>
    cases w with
    | objectId id' =>
      obtain ⟨rfl, hrest⟩ := unique_objectId heq
      exact ⟨.same _, hrest⟩
    | _ => exact nomatch hkind
  | dateTime millis =>
    cases w with
    | dateTime millis' =>
      obtain ⟨rfl, hrest⟩ := unique_dateTime heq
      exact ⟨.same _, hrest⟩
    | _ => exact nomatch hkind
  | timestamp time increment =>
    cases w with
    | timestamp time' increment' =>
      obtain ⟨rfl, rfl, hrest⟩ := unique_timestamp heq
      exact ⟨.same _, hrest⟩
    | _ => exact nomatch hkind
  | binary subtype bytes =>
    cases w with
    | binary subtype' bytes' =>
      obtain ⟨rfl, rfl, hrest⟩ := unique_binary heq
      exact ⟨.same _, hrest⟩
    | _ => exact nomatch hkind
  | regex pattern options =>
    cases w with
    | regex pattern' options' =>
      obtain ⟨rfl, rfl, hrest⟩ := unique_regex hv hw hrest hrest' heq
      exact ⟨.same _, hrest⟩
    | _ => exact nomatch hkind
  | code | codeWithScope => exact hv.elim
  | dbPointer target id =>
    cases w with
    | dbPointer target' id' =>
      obtain ⟨rfl, rfl, hrest⟩ := unique_dbPointer hv hw heq
      exact ⟨.same _, hrest⟩
    | _ => exact nomatch hkind
  | array items => exact absurd rfl (harray items)
  | document fields => exact absurd rfl (hdocument fields)

mutual

/-- A value is told by its text, whatever it may stand in. -/
theorem unique_text : ∀ (v : Value) {w : Value} {rest rest' : List Char}, v.Legible → w.Legible →
    Closes rest → Closes rest' → v.text.toList ++ rest = w.text.toList ++ rest' →
    Alike v w ∧ rest = rest' := by
  intro v w rest rest' hv hw hrest hrest' heq
  have hkind : w.kind? = v.kind? := by
    rw [← kindOf?_text hw rest', ← heq, kindOf?_text hv rest]
  cases v with
  | array items =>
    cases w with
    | array items' =>
      obtain ⟨halike, hrest⟩ := unique_array items hv hw heq
      exact ⟨.array halike, hrest⟩
    | _ => exact nomatch hkind
  | document fields =>
    cases w with
    | document fields' =>
      obtain ⟨halike, hrest⟩ := unique_document fields hv hw heq
      exact ⟨.document halike, hrest⟩
    | _ => exact nomatch hkind
  | _ => exact unique_atom (fun _ h => by cases h) (fun _ h => by cases h) hv hw hkind hrest hrest' heq

theorem unique_array : ∀ (items : List Value) {items' : List Value} {rest rest' : List Char},
    LegibleItems items → LegibleItems items' →
    (text (.array items)).toList ++ rest = (text (.array items')).toList ++ rest' →
    AlikeItems items items' ∧ rest = rest' := by
  intro items items' rest rest' hv hw heq
  have hopen {v : Value} (hv : v.Legible) (items : List Value) (rest rest' : List Char) :
      (text (.array [])).toList ++ rest' ≠ (text (.array (v :: items))).toList ++ rest := by
    rw [toList_array_cons, List.cons_append, List.append_assoc]
    intro heq
    have hkind := congrArg kindOf? (List.cons.inj heq).2
    rw [kindOf?_text hv] at hkind
    exact kind?_ne_none hv hkind.symm
  match items, items' with
  | [], [] => exact ⟨.nil, List.append_cancel_left heq⟩
  | [], w :: items' => exact absurd heq (hopen hw.1 items' rest' rest)
  | v :: items, [] => exact absurd heq.symm (hopen hv.1 items rest rest')
  | v :: items, w :: items' =>
    simp only [toList_array_cons, List.cons_append, List.append_assoc, List.cons.injEq, true_and] at heq
    obtain ⟨halike, heq⟩ :=
      unique_text v hv.1 hw.1 (closes_itemsTail items rest) (closes_itemsTail items' rest') heq
    obtain ⟨hitems, hrest⟩ := unique_items items hv.2 hw.2 heq
    exact ⟨.cons halike hitems, hrest⟩

theorem unique_items : ∀ (items : List Value) {items' : List Value} {rest rest' : List Char},
    LegibleItems items → LegibleItems items' →
    itemsTail items ++ rest = itemsTail items' ++ rest' → AlikeItems items items' ∧ rest = rest' := by
  intro items items' rest rest' hv hw heq
  match items, items' with
  | [], [] => exact ⟨.nil, List.append_cancel_left heq⟩
  | [], w :: items' => exact absurd (List.cons.inj heq).1 (by decide)
  | v :: items, [] => exact absurd (List.cons.inj heq).1 (by decide)
  | v :: items, w :: items' =>
    simp only [itemsTail, List.cons_append, List.append_assoc, List.cons.injEq, true_and] at heq
    obtain ⟨halike, heq⟩ :=
      unique_text v hv.1 hw.1 (closes_itemsTail items rest) (closes_itemsTail items' rest') heq
    obtain ⟨hitems, hrest⟩ := unique_items items hv.2 hw.2 heq
    exact ⟨.cons halike hitems, hrest⟩

/-- A document is told by its text alone, for it ends at its brace. -/
theorem unique_document : ∀ (fields : List (String × Value)) {fields' : List (String × Value)}
    {rest rest' : List Char}, LegibleFields fields → LegibleFields fields' →
    (text (.document fields)).toList ++ rest = (text (.document fields')).toList ++ rest' →
    AlikeFields fields fields' ∧ rest = rest' := by
  intro fields fields' rest rest' hv hw heq
  match fields, fields' with
  | [], [] => exact ⟨.nil, List.append_cancel_left heq⟩
  | [], (_, _) :: _ =>
    rw [toList_document_cons] at heq
    exact absurd (List.cons.inj (List.cons.inj heq).2).1 (by decide)
  | (_, _) :: _, [] =>
    rw [toList_document_cons] at heq
    exact absurd (List.cons.inj (List.cons.inj heq).2).1 (by decide)
  | (key, v) :: fields, (key', w) :: fields' =>
    simp only [toList_document_cons, List.cons_append, List.append_assoc, List.cons.injEq, true_and] at heq
    obtain ⟨rfl, hvalue⟩ := unique_fieldText hv.1 hw.1 heq
    obtain ⟨halike, heq⟩ :=
      unique_text v hv.2.1 hw.2.1 (closes_fieldsTail fields rest) (closes_fieldsTail fields' rest') hvalue
    obtain ⟨hfields, hrest⟩ := unique_fields fields hv.2.2 hw.2.2 heq
    exact ⟨.cons halike hfields, hrest⟩

theorem unique_fields : ∀ (fields : List (String × Value)) {fields' : List (String × Value)}
    {rest rest' : List Char}, LegibleFields fields → LegibleFields fields' →
    fieldsTail fields ++ rest = fieldsTail fields' ++ rest' → AlikeFields fields fields' ∧ rest = rest' := by
  intro fields fields' rest rest' hv hw heq
  match fields, fields' with
  | [], [] => exact ⟨.nil, List.append_cancel_left heq⟩
  | [], (_, _) :: _ => exact absurd (List.cons.inj heq).1 (by decide)
  | (_, _) :: _, [] => exact absurd (List.cons.inj heq).1 (by decide)
  | (key, v) :: fields, (key', w) :: fields' =>
    simp only [fieldsTail, List.cons_append, List.append_assoc, List.cons.injEq, true_and] at heq
    obtain ⟨rfl, hvalue⟩ := unique_fieldText hv.1 hw.1 heq
    obtain ⟨halike, heq⟩ :=
      unique_text v hv.2.1 hw.2.1 (closes_fieldsTail fields rest) (closes_fieldsTail fields' rest') hvalue
    obtain ⟨hfields, hrest⟩ := unique_fields fields hv.2.2 hw.2.2 heq
    exact ⟨.cons halike hfields, hrest⟩

end

end Unique

end Value

/-- Legible documents of one text are alike. -/
theorem Document.alike_of_text {d e : Document} (hd : Value.LegibleFields d) (he : Value.LegibleFields e)
    (heq : d.text = e.text) : Value.AlikeFields d e :=
  (Value.unique_document d hd he
    (congrArg (fun s => s.toList ++ []) heq)).1

end DocStore
