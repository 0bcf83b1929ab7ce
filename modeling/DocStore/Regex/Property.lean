import DocStore.Regex.CharClass
/-!
The sets of characters that a pattern knows by name: Unicode properties, with general categories
and scripts among them, and the fourteen named classes of ASCII.
-/
namespace DocStore.CharClass

def keepsInName (c : Char) : Bool := c != ' ' && c != '-' && c != '_' && decide (c.toNat < 128)

/-- Names are compared without blanks, hyphens, underscores and case, and without a leading `is`,
save that `isc` stays, being the name of a property of its own. -/
def looseName (name : String) : String :=
  let plain (cs : List Char) := (cs.filter keepsInName).map Char.toLower
  match name.toList with
  | first :: second :: rest =>
    if first.toLower = 'i' ∧ second.toLower = 's' then
      if plain rest = ['c'] then "isc" else String.ofList (plain rest)
    else String.ofList (plain (first :: second :: rest))
  | short => String.ofList (plain short)

def decimalDigit : CharClass := .category [.Nd]

/-- Properties that hold or do not hold of a character. -/
def binaryProperty? : String → Option CharClass
  | "alpha" | "alphabetic" => some .alphabetic
  | "lower" | "lowercase" => some .lowercase
  | "upper" | "uppercase" => some .uppercase
  | "space" | "wspace" | "whitespace" => some .blank
  | "cased" => some .cased
  | "ci" | "caseignorable" => some .caseIgnorable
  | "grext" | "graphemeextend" => some .graphemeExtend
  | "joinc" | "joincontrol" => some (.range 0x200C 0x200D)
  | "ahex" | "asciihexdigit" => some (ofRanges [('0', '9'), ('A', 'F'), ('a', 'f')])
  | "hex" | "hexdigit" => some (.union (ofRanges [('0', '9'), ('A', 'F'), ('a', 'f')])
      (.union (.range 0xFF10 0xFF19) (.union (.range 0xFF21 0xFF26) (.range 0xFF41 0xFF46))))
  | _ => none

def generalCategory? : String → Option CharClass
  | "any" => some any
  | "assigned" => some (.complement (.category [.Cn]))
  | "ascii" => some (.range 0 0x7F)
  | name => (Unicode.Category.named? name).map .category

def script? (name : String) : Option CharClass := (Unicode.script? name).map .script

/-- The set meant by one loosely written name: a property, a category or a script, in this order.
Names that mean both a property and a category mean the category. -/
def named? (name : String) : Option CharClass :=
  let name := looseName name
  binaryProperty? name <|> generalCategory? name <|> script? name

/-- The set of characters that have a property with a given value. -/
def valued? (property value : String) : Option CharClass :=
  match looseName property with
  | "gc" | "generalcategory" => generalCategory? (looseName value)
  | "sc" | "script" | "scx" | "scriptextensions" => script? (looseName value)
  | _ => none

def ascii? : String → Option CharClass
  | "alnum" => some (ofRanges [('0', '9'), ('A', 'Z'), ('a', 'z')])
  | "alpha" => some (ofRanges [('A', 'Z'), ('a', 'z')])
  | "ascii" => some (.range 0 0x7F)
  | "blank" => some (ofRanges [('\t', '\t'), (' ', ' ')])
  | "cntrl" => some (.union (.range 0 0x1F) (.range 0x7F 0x7F))
  | "digit" => some (ofRanges [('0', '9')])
  | "graph" => some (ofRanges [('!', '~')])
  | "lower" => some (ofRanges [('a', 'z')])
  | "print" => some (ofRanges [(' ', '~')])
  | "punct" => some (.union (.union (.range 0x21 0x2F) (.range 0x3A 0x40))
      (.union (.range 0x5B 0x60) (.range 0x7B 0x7E)))
  | "space" => some (ofRanges [('\t', '\r'), (' ', ' ')])
  | "upper" => some (ofRanges [('A', 'Z')])
  | "word" => some (ofRanges [('0', '9'), ('A', 'Z'), ('_', '_'), ('a', 'z')])
  | "xdigit" => some (ofRanges [('0', '9'), ('A', 'F'), ('a', 'f')])
  | _ => none

end DocStore.CharClass
