import DocStore.Proofs.Filter.Paths
import DocStore.Proofs.Filter.Regrouping
import DocStore.Proofs.Filter.Trichotomy
import DocStore.Proofs.Value.Comparison
import DocStore.Proofs.Value.NumberTypes
/-!
Filters of one text. A filter compares a number by its value and tells its type only where the number
stands inside an array or a document that is to be equalled. Filters that are alike give the same verdicts
when these types are the same.
-/
namespace DocStore

namespace Filter

open Value

variable {v w : Value} {ts us : List NumberType}

section Types

/-- The types that equality with an operand asks for: a number is equalled by every number of its value. -/
def typesOfOperand (operand : Value) : List NumberType :=
  if operand.isNumber then [] else operand.numberTypes

def typesOfOperands : Value → List NumberType
  | .array items => items.flatMap typesOfOperand
  | _ => []

/-- Zero is no yes in the binary types alone. -/
def typesOfTruth (argument : Value) : List NumberType :=
  if argument.isNumber then argument.numberTypes else []

def typesOfArgument (operator : String) (argument : Value) : List NumberType :=
  if operator ∈ ["$eq", "$ne"] then typesOfOperand argument
  else if operator ∈ ["$in", "$nin", "$all"] then typesOfOperands argument
  else if operator = "$exists" then typesOfTruth argument
  else []

def typesOfOperators : List (String × Value) → List NumberType
  | [] => []
  | (operator, argument) :: rest => typesOfArgument operator argument ++ typesOfOperators rest

/-- Whether a condition is a list of operators, by its first key. -/
def isOperators : Value → Bool
  | .document ((key, _) :: _) => startsWithDollar key
  | _ => false

def typesOfCondition (condition : Value) : List NumberType :=
  match condition with
  | .document ((key, argument) :: rest) =>
    if startsWithDollar key then typesOfOperators ((key, argument) :: rest) else typesOfOperand condition
  | _ => typesOfOperand condition

mutual

/-- The types of numbers that a filter looks at, in order. -/
def typesOfEntries : List (String × Value) → List NumberType
  | [] => []
  | (key, value) :: rest => typesOfEntry key value ++ typesOfEntries rest

def typesOfEntry (key : String) : Value → List NumberType
  | .array clauses =>
    if isConnective key then typesOfClauses clauses
    else if startsWithDollar key then [] else typesOfCondition (.array clauses)
  | value => if startsWithDollar key then [] else typesOfCondition value

def typesOfClauses : List Value → List NumberType
  | [] => []
  | .document filter :: rest => typesOfEntries filter ++ typesOfClauses rest
  | _ :: rest => typesOfClauses rest

end

end Types

section Operands

/-- Operands that every value equals or none. -/
def Interchangeable (v w : Value) : Prop :=
  v = w ∨ v.isNumber = true ∧ w.isNumber = true ∧ v.toBinary64 = w.toBinary64

theorem interchangeable_of_alike (h : Alike v w)
    (htypes : typesOfOperand v ++ ts = typesOfOperand w ++ us) : Interchangeable v w ∧ ts = us := by
  cases h with
  | same => exact ⟨.inl rfl, List.append_cancel_left htypes⟩
  | number hv hw htext =>
    rw [typesOfOperand, typesOfOperand, if_pos hv.isNumber, if_pos hw.isNumber] at htypes
    exact ⟨.inr ⟨hv.isNumber, hw.isNumber, toBinary64_eq_of_text hv hw htext⟩, htypes⟩
  | array hitems =>
    obtain ⟨heq, hrest⟩ := (Alike.array hitems).unique htypes
    exact ⟨.inl heq, hrest⟩
  | document hfields =>
    obtain ⟨heq, hrest⟩ := (Alike.document hfields).unique htypes
    exact ⟨.inl heq, hrest⟩

theorem interchangeable_items {items items' : List Value} (h : AlikeItems items items')
    (htypes : items.flatMap typesOfOperand ++ ts = items'.flatMap typesOfOperand ++ us) :
    List.Forall₂ Interchangeable items items' ∧ ts = us := by
  induction items generalizing items' with
  | nil =>
    cases h
    exact ⟨.nil, htypes⟩
  | cons v items ih =>
    cases h with
    | cons hv hitems =>
      rw [List.flatMap_cons, List.flatMap_cons, List.append_assoc, List.append_assoc] at htypes
      obtain ⟨hfirst, hrest⟩ := interchangeable_of_alike hv htypes
      obtain ⟨hothers, hrest⟩ := ih hitems hrest
      exact ⟨.cons hfirst hothers, hrest⟩

variable {rule : CaseRule}

theorem matchesEqual_of_not_isNumber {a : Value} (ha : a.isNumber = false) (hv : v.isNumber = true) :
    a.matchesEqual rule v = false := by
  cases v <;> first
    | (cases hv; done)
    | (cases a <;> first
        | (cases ha; done)
        | (cases rule <;> rfl))

theorem matchesEqual_congr (h : Interchangeable v w) (a : Value) :
    a.matchesEqual rule v = a.matchesEqual rule w := by
  rcases h with rfl | ⟨hv, hw, hvalue⟩
  · rfl
  · cases ha : a.isNumber with
    | true => rw [matchesEqual_of_isNumber ha hv, matchesEqual_of_isNumber ha hw, compareNumbers,
        compareNumbers, hvalue]
    | false => rw [matchesEqual_of_not_isNumber ha hv, matchesEqual_of_not_isNumber ha hw]

theorem equals_number (hv : v.isNumber = true) (value : Option Value) :
    equals rule value v = match value with
      | none => false
      | some (.array items) => items.any fun item => item.matchesEqual rule v
      | some a => a.matchesEqual rule v := by
  cases v <;> first
    | (cases hv; done)
    | (cases value with
        | none => rfl
        | some a => cases a <;> rfl)

theorem equals_congr (h : Interchangeable v w) (value : Option Value) :
    equals rule value v = equals rule value w := by
  have hitem (a : Value) : a.matchesEqual rule v = a.matchesEqual rule w := matchesEqual_congr h a
  rcases h with rfl | ⟨hv, hw, -⟩
  · rfl
  · rw [equals_number hv, equals_number hw]
    simp only [hitem]

theorem equals_map_congr {items items' : List Value} (h : List.Forall₂ Interchangeable items items')
    (value : Option Value) : items.map (equals rule value) = items'.map (equals rule value) := by
  induction h with
  | nil => rfl
  | cons hfirst _ ih => rw [List.map_cons, List.map_cons, equals_congr hfirst, ih]

theorem memberOf_congr {items items' : List Value} (h : List.Forall₂ Interchangeable items items')
    (value : Option Value) : memberOf rule value items = memberOf rule value items' := by
  have hany (items : List Value) : memberOf rule value items = (items.map (equals rule value)).any id := by
    rw [List.any_map]
    rfl
  rw [hany, hany, equals_map_congr h]

theorem containsAll_congr {items items' : List Value} (h : List.Forall₂ Interchangeable items items')
    (value : Option Value) : containsAll rule value items = containsAll rule value items' := by
  have hall (items : List Value) : containsAll rule value items =
      (!(items.map (equals rule value)).isEmpty && (items.map (equals rule value)).all id) := by
    rw [List.all_map, List.isEmpty_map]
    rfl
  rw [hall, hall, equals_map_congr h]

/-- Order looks at the value of a number, at the text of a string, and else at the type alone. -/
theorem relates_congr (h : Alike v w) (accept : Ordering → Bool) (item : Value) :
    relates rule accept v item = relates rule accept w item := by
  cases h with
  | same => rfl
  | number hv hw htext =>
    have hvalue := toBinary64_eq_of_text hv hw htext
    have hranks : v.typeRank = w.typeRank := by
      rw [typeRank_of_isNumber hv.isNumber, typeRank_of_isNumber hw.isNumber]
    unfold relates comparable
    rw [hv.isNumber, hw.isNumber, hranks]
    cases hitem : item.isNumber with
    | true => rw [compare_of_isNumber hitem hv.isNumber, compare_of_isNumber hitem hw.isNumber,
        compareNumbers, compareNumbers, hvalue]
    | false =>
      have hrank : item.typeRank ≠ w.typeRank := by
        rw [typeRank_of_isNumber hw.isNumber]
        cases item <;> first
          | (cases hitem; done)
          | simp [typeRank]
      rw [compare_of_typeRank_ne (hranks ▸ hrank), compare_of_typeRank_ne hrank, hranks]
  | array => cases item <;> rfl
  | document => cases item <;> rfl

variable (rule) in
theorem ordered_congr (h : Alike v w) (accept : Ordering → Bool) (value : Option Value) :
    ordered rule accept value v = ordered rule accept value w := by
  have hitem (item : Value) : relates rule accept v item = relates rule accept w item :=
    relates_congr h accept item
  unfold ordered
  split
  · rfl
  · exact congrArg _ (funext hitem)
  · exact hitem _

end Operands

section Conditions

variable {rule : CaseRule} {fields fields' : List (String × Value)}

/-- Alike documents have alike values under a key, or neither has one. -/
theorem get?_of_alike (h : AlikeFields fields fields') (key : String) :
    Document.get? fields key = none ∧ Document.get? fields' key = none ∨
      ∃ v w, Document.get? fields key = some v ∧ Document.get? fields' key = some w ∧ Alike v w := by
  induction fields generalizing fields' with
  | nil =>
    cases h
    exact .inl ⟨rfl, rfl⟩
  | cons field fields ih =>
    cases h with
    | @cons name v w _ _ hv hfields =>
      rw [Document.get?, Document.get?, List.lookup_cons, List.lookup_cons]
      cases key == name with
      | true => exact .inr ⟨v, w, rfl, rfl, hv⟩
      | false => exact ih hfields

theorem eq_or_ne_string (h : Alike v w) : v = w ∨ (∀ s, v ≠ .string s) ∧ ∀ s, w ≠ .string s := by
  have hnumeral {v : Value} (hv : v.IsNumeral) (s : String) : v ≠ .string s := by
    rintro rfl
    exact hv
  cases h with
  | same => exact .inl rfl
  | number hv hw _ => exact .inr ⟨hnumeral hv, hnumeral hw⟩
  | array | document => exact .inr ⟨nofun, nofun⟩

theorem patternFlags_congr (h : AlikeFields fields fields') : patternFlags fields = patternFlags fields' := by
  have hplain {d : Document} {v : Value} (hget : d.get? "$options" = some v) (hv : ∀ s, v ≠ .string s) :
      patternFlags d = {} := by
    rw [patternFlags, hget]
    cases v <;> first
      | rfl
      | exact absurd rfl (hv _)
  rcases get?_of_alike h "$options" with ⟨hget, hget'⟩ | ⟨v, w, hget, hget', hv⟩
  · rw [patternFlags, patternFlags, hget, hget']
  · rcases eq_or_ne_string hv with rfl | ⟨hv, hw⟩
    · rw [patternFlags, patternFlags, hget, hget']
    · rw [hplain hget hv, hplain hget' hw]

theorem textHolds_congr (h : Alike v w) (d : Document) : textHolds d v = textHolds d w := by
  have hplain {arguments : Document} {v : Value} (hget : arguments.get? "$search" = some v)
      (hv : ∀ s, v ≠ .string s) :
      textHolds d (.document arguments) = .error (.badValue "$search must be a string") := by
    rw [textHolds, hget]
    cases v <;> first
      | rfl
      | exact absurd rfl (hv _)
  cases h with
  | same | array => rfl
  | number hv hw _ =>
    have hnumeral {v : Value} (hv : v.IsNumeral) : textHolds d v = .error (.badValue "$text needs an object") := by
      cases v <;> first
        | rfl
        | exact hv.elim
    rw [hnumeral hv, hnumeral hw]
  | document hfields =>
    rcases get?_of_alike hfields "$search" with ⟨hget, hget'⟩ | ⟨v, w, hget, hget', hv⟩
    · rw [textHolds, textHolds, hget, hget']
    · rcases eq_or_ne_string hv with rfl | ⟨hv, hw⟩
      · rw [textHolds, textHolds, hget, hget']
      · rw [hplain hget hv, hplain hget' hw]

theorem truthy_congr (h : Alike v w) (htypes : typesOfTruth v ++ ts = typesOfTruth w ++ us) :
    v.truthy = w.truthy ∧ ts = us := by
  cases h with
  | same => exact ⟨rfl, List.append_cancel_left htypes⟩
  | number hv hw htext =>
    rw [typesOfTruth, typesOfTruth, if_pos hv.isNumber, if_pos hw.isNumber] at htypes
    obtain ⟨rfl, hrest⟩ := (Alike.number hv hw htext).unique htypes
    exact ⟨rfl, hrest⟩
  | array | document => exact ⟨rfl, htypes⟩

/-- What an operator with a list makes of lists that are alike, or of what is no list. -/
theorem arrayArgument_congr {f : List Value → Bool} (h : Alike v w)
    (htypes : typesOfOperands v ++ ts = typesOfOperands w ++ us) (operator : String)
    (hf : ∀ {items items' : List Value}, List.Forall₂ Interchangeable items items' → f items = f items') :
    (arrayArgument operator v).map f = (arrayArgument operator w).map f ∧ ts = us := by
  cases h with
  | same => exact ⟨rfl, List.append_cancel_left htypes⟩
  | number hv hw _ =>
    have hnumeral {v : Value} (hv : v.IsNumeral) :
        arrayArgument operator v = .error (.badValue (operator ++ " needs an array")) ∧
          typesOfOperands v = [] := by
      cases v <;> first
        | exact ⟨rfl, rfl⟩
        | exact hv.elim
    rw [(hnumeral hv).2, (hnumeral hw).2] at htypes
    rw [(hnumeral hv).1, (hnumeral hw).1]
    exact ⟨rfl, htypes⟩
  | array hitems =>
    obtain ⟨hset, hrest⟩ := interchangeable_items hitems htypes
    exact ⟨congrArg Except.ok (hf hset), hrest⟩
  | document => exact ⟨rfl, htypes⟩

theorem isOperators_congr (h : Alike v w) : isOperators v = isOperators w := by
  have hnumeral {v : Value} (hv : v.IsNumeral) : isOperators v = false := by
    cases v <;> first
      | rfl
      | exact hv.elim
  cases h with
  | same | array => rfl
  | number hv hw _ => rw [hnumeral hv, hnumeral hw]
  | document hfields => cases hfields <;> rfl

variable [Regex.Engine]

theorem matchesPattern_congr (h : Alike v w) (value : Option Value) (flags : Regex.Flags) :
    matchesPattern value v flags = matchesPattern value w flags := by
  have hplain {v : Value} (hv : ∀ s, v ≠ .string s) :
      matchesPattern value v flags = .error (.badValue "$regex has to be a string") := by
    cases v <;> first
      | rfl
      | exact absurd rfl (hv _)
  rcases eq_or_ne_string h with rfl | ⟨hv, hw⟩
  · rfl
  · rw [hplain hv, hplain hw]

/-- An operator that asks for no types of numbers holds with either of two arguments that are alike. -/
theorem operatorHolds_congr_plain {condition condition' : Document} (h : Alike v w)
    (hflags : patternFlags condition = patternFlags condition') {operator : String}
    (hplain : operator ∉ ["$eq", "$ne"] ∧ operator ∉ ["$in", "$nin", "$all"] ∧ operator ≠ "$exists")
    (rule : CaseRule) (value : Option Value) :
    operatorHolds rule value condition operator v = operatorHolds rule value condition' operator w := by
  obtain ⟨hequality, hlist, hexists⟩ := hplain
  have hlt := ordered_congr rule h (· == .lt) value
  have hlte := ordered_congr rule h (· != .gt) value
  have hgt := ordered_congr rule h (· == .gt) value
  have hgte := ordered_congr rule h (· != .lt) value
  have hpattern := matchesPattern_congr h value (patternFlags condition)
  rw [hflags] at hpattern
  unfold operatorHolds
  split
  all_goals first
    | rfl
    | exact absurd (by decide) hequality
    | exact absurd (by decide) hlist
    | exact absurd rfl hexists
    | rw [hlt]
    | rw [hlte]
    | rw [hgt]
    | rw [hgte]
    | rw [hflags, hpattern]

theorem operatorHolds_congr {condition condition' : Document} (h : Alike v w)
    (hflags : patternFlags condition = patternFlags condition') (operator : String)
    (htypes : typesOfArgument operator v ++ ts = typesOfArgument operator w ++ us) (rule : CaseRule)
    (value : Option Value) :
    operatorHolds rule value condition operator v = operatorHolds rule value condition' operator w ∧
      ts = us := by
  unfold typesOfArgument at htypes
  by_cases hequality : operator ∈ ["$eq", "$ne"]
  · rw [if_pos hequality, if_pos hequality] at htypes
    obtain ⟨hoperand, hrest⟩ := interchangeable_of_alike h htypes
    have hequals : equals rule value v = equals rule value w := equals_congr hoperand value
    simp only [List.mem_cons, List.not_mem_nil, or_false] at hequality
    refine ⟨?_, hrest⟩
    rcases hequality with rfl | rfl
    · exact congrArg Except.ok hequals
    · exact congrArg (fun b => Except.ok !b) hequals
  rw [if_neg hequality, if_neg hequality] at htypes
  by_cases hlist : operator ∈ ["$in", "$nin", "$all"]
  · rw [if_pos hlist, if_pos hlist] at htypes
    simp only [List.mem_cons, List.not_mem_nil, or_false] at hlist
    rcases hlist with rfl | rfl | rfl
    · exact arrayArgument_congr h htypes _ fun hset => memberOf_congr hset value
    · exact arrayArgument_congr h htypes _ fun hset => congrArg (!·) (memberOf_congr hset value)
    · exact arrayArgument_congr h htypes _ fun hset => containsAll_congr hset value
  rw [if_neg hlist, if_neg hlist] at htypes
  by_cases hexists : operator = "$exists"
  · rw [if_pos hexists, if_pos hexists] at htypes
    obtain ⟨htruth, hrest⟩ := truthy_congr h htypes
    subst hexists
    exact ⟨congrArg (fun b => Except.ok (value.isSome == b)) htruth, hrest⟩
  rw [if_neg hexists, if_neg hexists] at htypes
  exact ⟨operatorHolds_congr_plain h hflags ⟨hequality, hlist, hexists⟩ rule value, htypes⟩

theorem operatorsHold_congr {condition condition' : Document} (h : AlikeFields fields fields')
    (hflags : patternFlags condition = patternFlags condition')
    (htypes : typesOfOperators fields ++ ts = typesOfOperators fields' ++ us) (rule : CaseRule)
    (value : Option Value) :
    operatorsHold rule value condition fields = operatorsHold rule value condition' fields' ∧ ts = us := by
  induction fields generalizing fields' with
  | nil =>
    cases h
    exact ⟨rfl, htypes⟩
  | cons field fields ih =>
    cases h with
    | @cons operator v w _ _ hv hfields =>
      rw [typesOfOperators, typesOfOperators, List.append_assoc, List.append_assoc] at htypes
      obtain ⟨hfirst, htail⟩ := operatorHolds_congr hv hflags operator htypes rule value
      obtain ⟨hothers, hrest⟩ := ih hfields htail
      rw [operatorsHold, operatorsHold, hfirst, hothers]
      exact ⟨rfl, hrest⟩

/-- A condition that is no list of operators is an operand. -/
theorem fieldHolds_literal (h : isOperators v = false) (rule : CaseRule) (value : Option Value) :
    fieldHolds rule value v = .ok (equals rule value v) ∧ typesOfCondition v = typesOfOperand v := by
  cases v with
  | document operators =>
    match operators, h with
    | [], _ => exact ⟨rfl, rfl⟩
    | (key, argument) :: rest, h =>
      have hkey : ¬startsWithDollar key = true := by
        rw [show startsWithDollar key = false from h]
        decide
      exact ⟨if_neg hkey, if_neg hkey⟩
  | _ => exact ⟨rfl, rfl⟩

theorem fieldHolds_operators {operators : List (String × Value)}
    (h : isOperators (.document operators) = true) (rule : CaseRule) (value : Option Value) :
    fieldHolds rule value (.document operators) = operatorsHold rule value operators operators ∧
      typesOfCondition (.document operators) = typesOfOperators operators := by
  match operators, h with
  | [], h => cases h
  | (key, argument) :: rest, h => exact ⟨if_pos h, if_pos h⟩

theorem fieldHolds_congr (h : Alike v w) (htypes : typesOfCondition v ++ ts = typesOfCondition w ++ us)
    (rule : CaseRule) (value : Option Value) : fieldHolds rule value v = fieldHolds rule value w ∧ ts = us := by
  have hshape := isOperators_congr h
  cases hoperators : isOperators v with
  | false =>
    obtain ⟨hv, hvtypes⟩ := fieldHolds_literal hoperators rule value
    obtain ⟨hw, hwtypes⟩ := fieldHolds_literal (hshape ▸ hoperators) rule value
    rw [hvtypes, hwtypes] at htypes
    obtain ⟨hoperand, hrest⟩ := interchangeable_of_alike h htypes
    rw [hv, hw, equals_congr hoperand]
    exact ⟨rfl, hrest⟩
  | true =>
    cases h with
    | same => exact ⟨rfl, List.append_cancel_left htypes⟩
    | number hv _ _ => cases v <;> first | exact hv.elim | cases hoperators
    | array => cases hoperators
    | document hfields =>
      obtain ⟨hv, hvtypes⟩ := fieldHolds_operators hoperators rule value
      obtain ⟨hw, hwtypes⟩ := fieldHolds_operators (hshape ▸ hoperators) rule value
      rw [hvtypes, hwtypes] at htypes
      rw [hv, hw]
      exact operatorsHold_congr hfields (patternFlags_congr hfields) htypes rule value

end Conditions

section Verdicts

theorem isDocument_congr (h : Alike v w) : isDocument v = isDocument w := by
  have hnumeral {v : Value} (hv : v.IsNumeral) : isDocument v = false := by
    cases v <;> first
      | rfl
      | exact hv.elim
  cases h with
  | same | array | document => rfl
  | number hv hw _ => rw [hnumeral hv, hnumeral hw]

theorem clauseFault?_alike {clauses others : List Value} (key : String) (h : AlikeItems clauses others) :
    clauseFault? key (.array clauses) = clauseFault? key (.array others) := by
  have hall {clauses others : List Value} (h : AlikeItems clauses others) :
      clauses.all isDocument = others.all isDocument := by
    induction clauses generalizing others with
    | nil =>
      cases h
      rfl
    | cons v clauses ih =>
      cases h with
      | cons hv hclauses => rw [List.all_cons, List.all_cons, isDocument_congr hv, ih hclauses]
  cases h with
  | nil => rfl
  | cons hv hclauses =>
    exact clauseFault?_congr (List.cons_ne_nil _ _) (List.cons_ne_nil _ _) (hall (.cons hv hclauses))

theorem typesOfEntry_of_not_isConnective {key : String} (hkey : ¬isConnective key = true) (v : Value) :
    typesOfEntry key v = if startsWithDollar key then [] else typesOfCondition v := by
  cases v with
  | array clauses => exact if_neg hkey
  | _ => rfl

variable [Regex.Engine]

/-- A connective needs a list of clauses, and asks for no types where it has none. -/
theorem matchEntry_connective {key : String} (hkey : isConnective key = true)
    (hv : ∀ clauses, v ≠ .array clauses) (rule : CaseRule) (d : Document) :
    matchEntry rule d key v = .error (.badValue (key ++ " must be an array")) ∧ typesOfEntry key v = [] := by
  rcases isConnective_iff.1 hkey with rfl | rfl
  · cases v <;> first
      | exact absurd rfl (hv _)
      | exact ⟨rfl, rfl⟩
  · cases v <;> first
      | exact absurd rfl (hv _)
      | exact ⟨rfl, rfl⟩

theorem matchEntry_congr_field {key : String} (hkey : ¬isConnective key = true) (h : Alike v w)
    (htypes : typesOfEntry key v ++ ts = typesOfEntry key w ++ us) :
    (∀ rule d, matchEntry rule d key v = matchEntry rule d key w) ∧ ts = us := by
  rw [typesOfEntry_of_not_isConnective hkey, typesOfEntry_of_not_isConnective hkey] at htypes
  by_cases hdollar : startsWithDollar key = true
  · rw [if_pos hdollar, if_pos hdollar] at htypes
    refine ⟨fun rule d => ?_, htypes⟩
    rw [matchEntry_of_not_isConnective hkey, matchEntry_of_not_isConnective hkey, if_pos hdollar,
      if_pos hdollar, textHolds_congr h]
  · rw [if_neg hdollar, if_neg hdollar] at htypes
    refine ⟨fun rule d => ?_, (fieldHolds_congr h htypes .exact none).2⟩
    rw [matchEntry_of_not_isConnective hkey, matchEntry_of_not_isConnective hkey, if_neg hdollar,
      if_neg hdollar, (fieldHolds_congr h htypes rule (d.at? key)).1, textHolds_congr h]

theorem clause_skipped (hv : ∀ filter, v ≠ .document filter) (rest : List Value) :
    (∀ rule d, matchAll rule d (v :: rest) = matchAll rule d rest ∧
      matchAny rule d (v :: rest) = matchAny rule d rest) ∧
    typesOfClauses (v :: rest) = typesOfClauses rest := by
  cases v <;> first
    | exact absurd rfl (hv _)
    | exact ⟨fun _ _ => ⟨rfl, rfl⟩, rfl⟩

mutual

/-- Filters that are alike give the same verdicts, if equality asks for the same types of numbers. -/
theorem matchEntries_alike : ∀ (f : List (String × Value)) {g : List (String × Value)}
    {ts us : List NumberType}, AlikeFields f g → typesOfEntries f ++ ts = typesOfEntries g ++ us →
    (∀ rule d, matchEntries rule d f = matchEntries rule d g) ∧ ts = us := by
  intro f g ts us h htypes
  match f, h with
  | [], h =>
    cases h
    exact ⟨fun _ _ => rfl, htypes⟩
  | (key, v) :: rest, .cons hv hfields =>
    rw [typesOfEntries, typesOfEntries, List.append_assoc, List.append_assoc] at htypes
    obtain ⟨hfirst, htail⟩ := matchEntry_alike key v hv htypes
    obtain ⟨hothers, hrest⟩ := matchEntries_alike rest hfields htail
    refine ⟨fun rule d => ?_, hrest⟩
    rw [matchEntries, matchEntries, hfirst, hothers]

theorem matchEntry_alike : ∀ (key : String) (v : Value) {w : Value} {ts us : List NumberType}, Alike v w →
    typesOfEntry key v ++ ts = typesOfEntry key w ++ us →
    (∀ rule d, matchEntry rule d key v = matchEntry rule d key w) ∧ ts = us := by
  intro key v w ts us h htypes
  by_cases hkey : isConnective key = true
  · have hunlisted (hv : ∀ clauses, v ≠ .array clauses) :
        (∀ rule d, matchEntry rule d key v = matchEntry rule d key w) ∧ ts = us := by
      have hw := h.ne_array hv
      rw [(matchEntry_connective hkey hv .exact []).2, (matchEntry_connective hkey hw .exact []).2] at htypes
      refine ⟨fun rule d => ?_, htypes⟩
      rw [(matchEntry_connective hkey hv rule d).1, (matchEntry_connective hkey hw rule d).1]
    cases v with
    | array clauses =>
      obtain ⟨others, rfl, hclauses⟩ := h.items
      have hfault := clauseFault?_alike key hclauses
      rw [typesOfEntry, typesOfEntry, if_pos hkey, if_pos hkey] at htypes
      obtain ⟨hverdicts, hrest⟩ := matchClauses_alike clauses hclauses htypes
      refine ⟨fun rule d => ?_, hrest⟩
      obtain ⟨hall, hany⟩ := hverdicts rule d
      rcases isConnective_iff.1 hkey with rfl | rfl
      · rw [matchEntry_and, matchEntry_and, hfault, hall]
      · rw [matchEntry_or, matchEntry_or, hfault, hany]
    | _ => exact hunlisted fun _ h => by cases h
  · exact matchEntry_congr_field hkey h htypes

theorem matchClauses_alike : ∀ (clauses : List Value) {others : List Value} {ts us : List NumberType},
    AlikeItems clauses others → typesOfClauses clauses ++ ts = typesOfClauses others ++ us →
    (∀ rule d, matchAll rule d clauses = matchAll rule d others ∧
      matchAny rule d clauses = matchAny rule d others) ∧ ts = us := by
  intro clauses others ts us h htypes
  match clauses, h with
  | [], h =>
    cases h
    exact ⟨fun _ _ => ⟨rfl, rfl⟩, htypes⟩
  | v :: rest, @AlikeItems.cons _ w _ more hv hclauses =>
    -- a clause that is no filter is passed over
    have hskipped (hno : ∀ filter, v ≠ .document filter) :
        (∀ rule d, matchAll rule d (v :: rest) = matchAll rule d (w :: more) ∧
          matchAny rule d (v :: rest) = matchAny rule d (w :: more)) ∧ ts = us := by
      obtain ⟨hskip, hskiptypes⟩ := clause_skipped hno rest
      obtain ⟨hskip', hskiptypes'⟩ := clause_skipped (hv.ne_document hno) more
      rw [hskiptypes, hskiptypes'] at htypes
      obtain ⟨hothers, hrest⟩ := matchClauses_alike rest hclauses htypes
      refine ⟨fun rule d => ?_, hrest⟩
      rw [(hskip rule d).1, (hskip rule d).2, (hskip' rule d).1, (hskip' rule d).2]
      exact hothers rule d
    cases v with
    | document filter =>
      obtain ⟨g, rfl, hfields⟩ := hv.fields
      rw [typesOfClauses, typesOfClauses, List.append_assoc, List.append_assoc] at htypes
      obtain ⟨hfirst, htail⟩ := matchEntries_alike filter hfields htypes
      obtain ⟨hothers, hrest⟩ := matchClauses_alike rest hclauses htail
      refine ⟨fun rule d => ?_, hrest⟩
      obtain ⟨hall, hany⟩ := hothers rule d
      rw [matchAll, matchAll, matchAny, matchAny, hfirst, hall, hany]
      exact ⟨rfl, rfl⟩
    | _ => exact hskipped nofun

end

end Verdicts

end Filter

variable [Regex.Engine]

/-- Filters that are alike select the same documents, if equality asks for the same types of numbers. -/
theorem Document.matchesFilter_alike {f g : Document} (h : Value.AlikeFields f g)
    (htypes : Filter.typesOfEntries f = Filter.typesOfEntries g) (rule : CaseRule) (d : Document) :
    d.matchesFilter rule f = d.matchesFilter rule g := by
  have hends : Filter.typesOfEntries f ++ [] = Filter.typesOfEntries g ++ [] := by rw [htypes]
  exact (Filter.matchEntries_alike f h hends).1 rule d

end DocStore
