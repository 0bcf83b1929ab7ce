/-!
What is asked of a library of regular expressions: it reads a pattern in the given modes, or says why it
refuses it, and then tells of every text whether the pattern is found in it.
-/
namespace DocStore.Regex

/-- The modes in which a pattern is read. -/
structure Flags where
  caseless : Bool := false
  multiline : Bool := false
  dotMatchesNewline : Bool := false

/-- Why a pattern is refused: it cannot be read, or what it is compiled to exceeds a limit in bytes. -/
inductive Refusal where
  | malformed (message : String)
  | tooLarge (limit : Nat)
deriving DecidableEq, Repr

def Refusal.message : Refusal → String
  | .malformed message => message
  | .tooLarge limit => "Compiled regex exceeds size limit of " ++ toString limit ++ " bytes."

class Engine where
  read (flags : Flags) (pattern : String) : Except Refusal (String → Bool)

end DocStore.Regex
