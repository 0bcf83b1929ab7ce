import DocStore.Json.Basic
import DocStore.Numeric.Shortest
import DocStore.Text.Hex
/-!
JSON text without blanks. In strings only quotes, backslashes and control characters are escaped;
numbers that are not finite are written as null.
-/
namespace DocStore.Json

def escapeChar (c : Char) : List Char :=
  match c with
  | '"' => ['\\', '"']
  | '\\' => ['\\', '\\']
  | '\n' => ['\\', 'n']
  | '\r' => ['\\', 'r']
  | '\t' => ['\\', 't']
  | '\x08' => ['\\', 'b']
  | '\x0c' => ['\\', 'f']
  | c => if c.toNat < 32 then '\\' :: 'u' :: Hex.fixed 4 c.toNat else [c]

def quote (s : String) : String :=
  "\"" ++ String.ofList (s.toList.flatMap escapeChar) ++ "\""

mutual

def write : Json → String
  | .null | .overflow | .text none => "null"
  | .bool b => if b then "true" else "false"
  | .natural n => toString n.toNat
  | .negative n => toString n.toInt
  | .double x => if x.isFinite then DecimalLayout.json.render x else "null"
  | .text (some s) => quote s
  | .array items => "[" ++ ",".intercalate (writeItems items) ++ "]"
  | .object fields => "\x7b" ++ ",".intercalate (writeFields fields) ++ "\x7d"

def writeItems : List Json → List String
  | [] => []
  | v :: rest => write v :: writeItems rest

def writeFields : List (Option String × Json) → List String
  | [] => []
  | (key, v) :: rest => (quote (key.getD "") ++ ":" ++ write v) :: writeFields rest

end

end DocStore.Json
