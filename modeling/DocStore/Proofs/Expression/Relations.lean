import DocStore.Proofs.Expression.Meaning
/-!
The relations that a filter computes are those that operators ask for, and its search for words
finds what a document mentions.
-/
namespace DocStore

namespace Value

mutual

theorem mem_strings_iff (s : String) : (v : Value) → (s ∈ v.strings ↔ v.HasText s)
  | .string t => by
    rw [strings, List.mem_singleton]
    constructor
    · rintro rfl
      exact .string s
    · intro h
      cases h
      rfl
  | .array items => by
    rw [strings, mem_itemStrings_iff s items]
    constructor
    · rintro ⟨v, hv, h⟩
      exact .item hv h
    · intro h
      cases h with
      | item hv h => exact ⟨_, hv, h⟩
  | .document fields => by
    rw [strings, mem_fieldStrings_iff s fields]
    constructor
    · rintro ⟨key, v, hv, h⟩
      exact .field hv h
    · intro h
      cases h with
      | field hv h => exact ⟨_, _, hv, h⟩
  | .null | .undefined | .minKey | .maxKey | .bool _ | .int32 _ | .int64 _ | .double _
  | .decimal _ | .symbol _ | .objectId _ | .dateTime _ | .timestamp _ _ | .binary _ _
  | .regex _ _ | .code _ | .codeWithScope _ _ | .dbPointer _ _ => by
    constructor
    · intro h
      simp [strings] at h
    · intro h
      cases h

theorem mem_itemStrings_iff (s : String) :
    (items : List Value) → (s ∈ itemStrings items ↔ ∃ v ∈ items, v.HasText s)
  | [] => by simp [itemStrings]
  | v :: rest => by
    rw [itemStrings, List.mem_append, mem_strings_iff s v, mem_itemStrings_iff s rest]
    constructor
    · rintro (h | ⟨v', hv, h⟩)
      · exact ⟨v, List.mem_cons_self, h⟩
      · exact ⟨v', List.mem_cons_of_mem _ hv, h⟩
    · rintro ⟨v', hv, h⟩
      rcases List.mem_cons.1 hv with rfl | hv
      · exact Or.inl h
      · exact Or.inr ⟨v', hv, h⟩

theorem mem_fieldStrings_iff (s : String) :
    (fields : List (String × Value)) →
      (s ∈ fieldStrings fields ↔ ∃ key v, (key, v) ∈ fields ∧ v.HasText s)
  | [] => by simp [fieldStrings]
  | (key, v) :: rest => by
    rw [fieldStrings, List.mem_append, mem_strings_iff s v, mem_fieldStrings_iff s rest]
    constructor
    · rintro (h | ⟨key', v', hv, h⟩)
      · exact ⟨key, v, List.mem_cons_self, h⟩
      · exact ⟨key', v', List.mem_cons_of_mem _ hv, h⟩
    · rintro ⟨key', v', hv, h⟩
      rcases List.mem_cons.1 hv with heq | hv
      · cases heq
        exact Or.inl h
      · exact Or.inr ⟨key', v', hv, h⟩

end

theorem mem_fieldStrings_iff_hasText {s : String} {d : Document} :
    s ∈ fieldStrings d ↔ (Value.document d).HasText s := by
  rw [← mem_strings_iff, strings]

end Value

namespace Filter

theorem occursIn_iff (part text : List Char) : occursIn part text = true ↔ part <:+: text := by
  induction text with
  | nil => simp [occursIn]
  | cons c rest ih =>
    rw [occursIn, Bool.or_eq_true, List.isPrefixOf_iff_prefix, ih, List.infix_cons_iff]

/-- The search compares all words with all strings, in the other order. -/
theorem searchText_iff (d : Document) (search : String) :
    searchText d search = true ↔ Mentions d search := by
  simp only [searchText, Mentions, List.any_eq_true, List.mem_map, occursIn_iff]
  constructor
  · rintro ⟨s, hs, _, ⟨word, hword, rfl⟩, hoccurs⟩
    exact ⟨word, hword, s, Value.mem_fieldStrings_iff_hasText.1 hs, hoccurs⟩
  · rintro ⟨word, hword, s, hs, hoccurs⟩
    exact ⟨s, Value.mem_fieldStrings_iff_hasText.2 hs, _, ⟨word, hword, rfl⟩, hoccurs⟩

variable {rule : CaseRule} {value : Option Value} {target : Value}

theorem equals_iff : equals rule value target = true ↔ Equals rule value target := by
  cases value with
  | none => cases target <;> simp [equals, Equals]
  | some v =>
    cases htarget : target.isArray with
    | true =>
      obtain ⟨ts, rfl⟩ : ∃ ts, target = .array ts := by
        cases target <;> first | exact ⟨_, rfl⟩ | cases htarget
      cases v <;> simp [equals, Equals, Value.isArray]
    | false =>
      have hparts : equals rule (some v) target =
          v.parts.any fun part => part.matchesEqual rule target := by
        cases v with
        | array items => cases target <;> first | rfl | cases htarget
        | _ => exact (Bool.or_false _).symm
      simp [hparts, Equals, htarget]

theorem equals_eq_false_iff : equals rule value target = false ↔ ¬Equals rule value target := by
  rw [← equals_iff, Bool.not_eq_true]

theorem ordered_iff {accept : Ordering → Bool} {order : Ordering → Prop}
    (haccept : ∀ o, accept o = true ↔ order o) :
    ordered rule accept value target = true ↔ Ordered rule order value target := by
  have hrelates : ∀ part, relates rule accept target part = true ↔
      part.comparable target = true ∧ order (part.compare rule target) := by
    intro part
    rw [relates, Bool.and_eq_true, haccept]
  cases value with
  | none => simp [ordered, Ordered]
  | some v =>
    have hparts : ordered rule accept (some v) target =
        v.parts.any (relates rule accept target) := by
      cases v with
      | array items => rfl
      | _ => exact (Bool.or_false _).symm
    simp [hparts, Ordered, hrelates]

theorem ordered_beq_iff (o : Ordering) :
    ordered rule (· == o) value target = true ↔ Ordered rule (· = o) value target :=
  ordered_iff fun _ => beq_iff_eq

theorem ordered_bne_iff (o : Ordering) :
    ordered rule (· != o) value target = true ↔ Ordered rule (· ≠ o) value target :=
  ordered_iff fun _ => bne_iff_ne

theorem memberOf_iff {targets : List Value} :
    memberOf rule value targets = true ↔ ∃ t ∈ targets, Equals rule value t := by
  simp [memberOf, equals_iff]

theorem containsAll_iff {targets : List Value} :
    containsAll rule value targets = true ↔
      targets ≠ [] ∧ ∀ t ∈ targets, Equals rule value t := by
  simp [containsAll, equals_iff]

def foundIn (isMatch : String → Bool) : Value → Bool
  | .string s => isMatch s
  | _ => false

variable [Regex.Engine]

/-- A pattern that can be read is found or not, and there is no third case. -/
theorem matchesPattern_of_read {pattern : String} {isMatch : String → Bool}
    (hread : Regex.Engine.read caselessFlags pattern = .ok isMatch) :
    ∃ b, matchesPattern value (.string pattern) caselessFlags = .ok b ∧
      (b = true ↔ Fits pattern value) := by
  have hfits : Fits pattern value ↔
      ∃ v s, value = some v ∧ .string s ∈ v.parts ∧ isMatch s = true := by
    constructor
    · rintro ⟨isMatch', v, s, hread', hv⟩
      cases hread.symm.trans hread'
      exact ⟨v, s, hv⟩
    · rintro ⟨v, s, hv⟩
      exact ⟨isMatch, v, s, hread, hv⟩
  have hfound : ∀ part, foundIn isMatch part = true ↔
      ∃ s, part = .string s ∧ isMatch s = true := by
    intro part
    cases part <;> simp [foundIn]
  simp only [matchesPattern, hread]
  refine ⟨_, rfl, ?_⟩
  rw [hfits]
  cases value with
  | none => simp
  | some v =>
    refine Iff.trans (b := v.parts.any (foundIn isMatch) = true) ?_ ?_
    · cases v with
      | array items => exact Iff.rfl
      | _ => exact Bool.eq_iff_iff.1 (Bool.or_false _).symm
    simp only [List.any_eq_true, hfound]
    constructor
    · rintro ⟨_, hpart, s, rfl, hs⟩
      exact ⟨v, s, rfl, hpart, hs⟩
    · rintro ⟨v', s, hv, hpart, hs⟩
      cases hv
      exact ⟨_, hpart, s, rfl, hs⟩

end Filter

end DocStore
