import DocStore.Document.Sort
import DocStore.Proofs.Document.Fields
import DocStore.Proofs.Expression.Meaning
/-!
Lower case in documents. Comparisons that are blind to letter case come out as the exact ones do once all
strings are in lower case. For equality this is said of strings as operands alone: an array or a document
is compared with another one as a whole, and the case of the strings inside is not folded then.
-/
namespace DocStore

namespace Value

mutual

/-- A value with all strings in it in lower case. The names of fields stay as they are. -/
def folded : Value → Value
  | .string s => .string (lowercase s)
  | .array items => .array (foldedItems items)
  | .document fields => .document (foldedFields fields)
  | .codeWithScope source scope => .codeWithScope source (foldedFields scope)
  | v => v

def foldedItems : List Value → List Value
  | [] => []
  | v :: rest => folded v :: foldedItems rest

def foldedFields : List (String × Value) → List (String × Value)
  | [] => []
  | (key, v) :: rest => (key, folded v) :: foldedFields rest

end

theorem foldedItems_eq (items : List Value) : foldedItems items = items.map folded := by
  induction items with
  | nil => rfl
  | cons v rest ih => rw [foldedItems, ih, List.map_cons]

theorem parts_folded (v : Value) : v.folded.parts = v.parts.map folded := by
  cases v with
  | array items => exact foldedItems_eq items
  | _ => rfl

theorem typeRank_folded (v : Value) : v.folded.typeRank = v.typeRank := by
  cases v <;> rfl

theorem isNumber_folded (v : Value) : v.folded.isNumber = v.isNumber := by
  cases v <;> rfl

theorem comparable_folded (a b : Value) : a.folded.comparable b.folded = a.comparable b := by
  simp only [comparable, isNumber_folded, typeRank_folded]

/-- Comparisons do not look into arrays and documents. -/
theorem compare_folded (a b : Value) :
    a.folded.compare .exact b.folded = a.compare .folded b := by
  cases a <;> cases b <;> rfl

theorem matchesEqual_folded (v : Value) (s : String) :
    v.folded.matchesEqual .exact (.string (lowercase s)) = v.matchesEqual .folded (.string s) := by
  cases v <;> rfl

end Value

namespace Filter

variable {value : Option Value}

theorem equals_string (rule : CaseRule) (v : Value) (s : String) :
    equals rule (some v) (.string s) = v.parts.any fun part => part.matchesEqual rule (.string s) := by
  cases v with
  | array items => rfl
  | _ => exact (Bool.or_false _).symm

theorem ordered_some (rule : CaseRule) (accept : Ordering → Bool) (v target : Value) :
    ordered rule accept (some v) target = v.parts.any (relates rule accept target) := by
  cases v with
  | array items => rfl
  | _ => exact (Bool.or_false _).symm

theorem equals_folded (value : Option Value) (s : String) :
    equals .exact (value.map Value.folded) (.string (lowercase s)) =
      equals .folded value (.string s) := by
  cases value with
  | none => rfl
  | some v =>
    rw [Option.map_some, equals_string, equals_string, Value.parts_folded, List.any_map]
    simp only [Function.comp_def, Value.matchesEqual_folded]

theorem relates_folded (accept : Ordering → Bool) (target item : Value) :
    relates .exact accept target.folded item.folded = relates .folded accept target item := by
  rw [relates, relates, Value.comparable_folded, Value.compare_folded]

theorem ordered_folded (accept : Ordering → Bool) (value : Option Value) (target : Value) :
    ordered .exact accept (value.map Value.folded) target.folded =
      ordered .folded accept value target := by
  cases value with
  | none => rfl
  | some v =>
    rw [Option.map_some, ordered_some, ordered_some, Value.parts_folded, List.any_map]
    simp only [Function.comp_def, relates_folded]

/-- Strings as the operands of a list operator. -/
def texts (strings : List String) : List Value := strings.map .string

theorem memberOf_folded (value : Option Value) (strings : List String) :
    memberOf .exact (value.map Value.folded) (texts (strings.map lowercase)) =
      memberOf .folded value (texts strings) := by
  simp only [memberOf, texts, List.any_map, Function.comp_def, equals_folded]

theorem containsAll_folded (value : Option Value) (strings : List String) :
    containsAll .exact (value.map Value.folded) (texts (strings.map lowercase)) =
      containsAll .folded value (texts strings) := by
  simp only [containsAll, texts, List.all_map, Function.comp_def, equals_folded, List.isEmpty_map]

end Filter

namespace Document

def folded (d : Document) : Document := Value.foldedFields d

theorem get?_folded (d : Document) (key : String) :
    d.folded.get? key = (d.get? key).map Value.folded := by
  induction d with
  | nil => rfl
  | cons field rest ih =>
    obtain ⟨k, v⟩ := field
    change get? ((k, v.folded) :: folded rest) key = _
    rw [get?_cons, get?_cons, ih]
    split <;> rfl

/-- Lower case changes no names, so that all ways lead on as before. -/
theorem follow?_folded (d : Document) (segments : List String) :
    d.folded.follow? segments = (d.follow? segments).map Value.folded := by
  induction segments generalizing d with
  | nil => rfl
  | cons key rest ih =>
    cases rest with
    | nil => exact get?_folded d key
    | cons next more =>
      rw [follow?, follow?, get?_folded]
      · rcases d.get? key with _ | v
        · rfl
        · cases v with
          | document fields => exact ih fields
          | _ => rfl
      · exact List.cons_ne_nil next more
      · exact List.cons_ne_nil next more

theorem at?_folded (d : Document) (path : String) :
    d.folded.at? path = (d.at? path).map Value.folded := by
  rw [at?, at?, follow?_folded]
  split <;> rfl

theorem compareOptional_folded (x y : Option Value) :
    compareOptional .exact (x.map Value.folded) (y.map Value.folded) =
      compareOptional .folded x y := by
  cases x with
  | none => cases y <;> rfl
  | some v =>
    cases y with
    | none => rfl
    | some w => exact Value.compare_folded v w

theorem compareFields_folded (a b : Document) (specification : List (String × Value)) :
    compareFields .exact a.folded b.folded specification =
      compareFields .folded a b specification := by
  induction specification with
  | nil => rfl
  | cons field rest ih =>
    obtain ⟨path, direction⟩ := field
    rw [compareFields, compareFields, at?_folded, at?_folded, compareOptional_folded, ih]

theorem compareBy_folded (specification a b : Document) :
    compareBy .exact specification a.folded b.folded = compareBy .folded specification a b :=
  compareFields_folded a b _

end Document

end DocStore
