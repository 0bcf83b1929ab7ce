import DocStore.Text.Blank
/-!
Sort directions and their names. `desc`, `descending` and `-1` in any case mean descending, all else
ascending.
-/
namespace DocStore

inductive Direction where
  | ascending
  | descending
deriving DecidableEq, Repr, Inhabited

namespace Direction

def sign : Direction → Int32
  | .ascending => 1
  | .descending => -1

def ofName (s : String) : Direction :=
  match String.ofList ((Text.trimChars s.toList).map Char.toLower) with
  | "desc" | "descending" | "-1" => .descending
  | _ => .ascending

end Direction

end DocStore
