import DocStore.Value.Order
/-!
Relations between the value at a field, which may be missing, and the value in a condition. A
missing field equals null alone and stands in no order. An array has what one of its items has;
equality with an array asks for the whole array.
-/
namespace DocStore.Filter

def equals (rule : CaseRule) (value : Option Value) (target : Value) : Bool :=
  match value, target with
  | none, .null => true
  | none, _ => false
  | some (.array items), .array _ => (Value.array items).matchesEqual rule target
  | some (.array items), _ => items.any fun item => item.matchesEqual rule target
  | some v, _ => v.matchesEqual rule target

def relates (rule : CaseRule) (accept : Ordering → Bool) (target item : Value) : Bool :=
  item.comparable target && accept (item.compare rule target)

def ordered (rule : CaseRule) (accept : Ordering → Bool) (value : Option Value) (target : Value) :
    Bool :=
  match value with
  | none => false
  | some (.array items) => items.any (relates rule accept target)
  | some v => relates rule accept target v

def memberOf (rule : CaseRule) (value : Option Value) (set : List Value) : Bool :=
  set.any (equals rule value)

/-- No value contains all of nothing. -/
def containsAll (rule : CaseRule) (value : Option Value) (required : List Value) : Bool :=
  !required.isEmpty && required.all (equals rule value)

end DocStore.Filter
