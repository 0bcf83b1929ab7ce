import DocStore.Unicode.Runs
import DocStore.Unicode.ScriptTable
/-!
Scripts of characters, known by their four letters.
-/
namespace DocStore.Unicode

/-- The script meant by a name in lower case without separators. -/
def script? (name : String) : Option String :=
  (scriptNames.find? fun (_, texts) => texts.contains name).map Prod.fst

def scriptTable : RunTable String := .ofText scriptRuns id

def script (c : Char) : String := (scriptTable.find? c.toNat).getD "Zzzz"

end DocStore.Unicode
