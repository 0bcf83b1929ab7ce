import DocStore.Document.Path
import DocStore.Value.Order
/-!
The order of documents under a sort specification, and stable sorting by it. A missing value comes
before any other, and a negative number turns the order of its field around.
-/
namespace DocStore

namespace Document

def compareOptional (rule : CaseRule) : Option Value → Option Value → Ordering
  | some x, some y => x.compare rule y
  | some _, none => .gt
  | none, some _ => .lt
  | none, none => .eq

def isDescending : Value → Bool
  | .int32 n => n < 0
  | .int64 n => n < 0
  | .double x => x.isNegative
  | _ => false

def maxSortFields : Nat := 8

def compareFields (rule : CaseRule) (a b : Document) : List (String × Value) → Ordering
  | [] => .eq
  | (path, direction) :: rest =>
    match compareOptional rule (a.at? path) (b.at? path) with
    | .eq => compareFields rule a b rest
    | order => if isDescending direction then order.swap else order

/-- Compares by the first fields of a specification that tell the documents apart. -/
def compareBy (rule : CaseRule) (specification a b : Document) : Ordering :=
  compareFields rule a b (specification.take maxSortFields)

end Document

/-- Puts `x` into a list that runs from the last place to the first, before which it passes all
that it comes strictly before. -/
def insertBackwards (compare : α → α → Ordering) (x : α) : List α → List α
  | [] => [x]
  | y :: rest =>
    if compare x y = .lt then y :: insertBackwards compare x rest else x :: y :: rest

/-- Stable sort by insertion. -/
def sortStably (compare : α → α → Ordering) (xs : List α) : List α :=
  (xs.foldl (fun sorted x => insertBackwards compare x sorted) []).reverse

end DocStore
