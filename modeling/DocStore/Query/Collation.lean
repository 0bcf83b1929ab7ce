import DocStore.Value.Order
/-!
Collations: how finely texts are told apart. The two coarser strengths make queries blind to case.
-/
namespace DocStore

inductive CollationStrength where
  | primary
  | secondary
  | tertiary
deriving DecidableEq, Repr, Inhabited

namespace CollationStrength

def level : CollationStrength → Nat
  | primary => 1
  | secondary => 2
  | tertiary => 3

def isCaseSensitive : CollationStrength → Bool
  | tertiary => true
  | _ => false

end CollationStrength

structure Collation where
  locale : String := "en"
  strength : CollationStrength
deriving DecidableEq, Repr

/-- The case rule of a query; without a collation texts are compared exactly. -/
def Collation.caseRule : Option Collation → CaseRule
  | some c => if c.strength.isCaseSensitive then .exact else .folded
  | none => .exact

end DocStore
