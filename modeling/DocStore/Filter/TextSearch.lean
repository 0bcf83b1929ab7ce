import DocStore.Value.Basic
import DocStore.Unicode.Case
import DocStore.Text.Blank
/-!
Search for words in all strings of a document, at any depth. One word in one string is enough, and
letter case plays no part.
-/
namespace DocStore

namespace Value

mutual

/-- The strings in a value, in order; symbols are none. -/
def strings : Value → List String
  | .string s => [s]
  | .array items => itemStrings items
  | .document fields => fieldStrings fields
  | _ => []

def itemStrings : List Value → List String
  | [] => []
  | v :: rest => strings v ++ itemStrings rest

def fieldStrings : List (String × Value) → List String
  | [] => []
  | (_, v) :: rest => strings v ++ fieldStrings rest

end

end Value

namespace Filter

def occursIn (part : List Char) : List Char → Bool
  | [] => part.isEmpty
  | c :: rest => part.isPrefixOf (c :: rest) || occursIn part rest

def searchText (d : Document) (search : String) : Bool :=
  let terms := (Text.words search).map fun term => (lowercase term).toList
  (Value.fieldStrings d).any fun s =>
    let text := (lowercase s).toList
    terms.any fun term => occursIn term text

end Filter

end DocStore
