import DocStore.Json.Number
import DocStore.Text.Hex
/-!
Reading of JSON text. Nesting is not bounded here, and parts without meaning are kept as such; who
decodes the tree sets bounds on the parts that it looks at.
-/
namespace DocStore.Json

def isBlank (c : Char) : Bool := c == ' ' || c == '\n' || c == '\t' || c == '\r'

def skip (cs : List Char) : List Char := cs.dropWhile isBlank

/-- The four digits of an escaped code unit. -/
def codeUnit? : List Char → Option (Nat × List Char)
  | a :: b :: c :: d :: rest => (Hex.number? [a, b, c, d]).map (·, rest)
  | _ => none

/-- The characters of a string, or `none` where a code unit is half of a pair; what follows is still
read by the grammar. -/
def addChar (c : Char) (text : Option (List Char)) : Option (List Char) := text.map (c :: ·)

def isHighHalf (n : Nat) : Bool := decide (0xD800 ≤ n ∧ n < 0xDC00)

def isLowHalf (n : Nat) : Bool := decide (0xDC00 ≤ n ∧ n < 0xE000)

def simpleEscape? : Char → Option Char
  | '"' => some '"'
  | '\\' => some '\\'
  | '/' => some '/'
  | 'b' => some '\x08'
  | 'f' => some '\x0c'
  | 'n' => some '\n'
  | 'r' => some '\r'
  | 't' => some '\t'
  | _ => none

/-- The second half of a pair after its first, if it is there. -/
def lowHalf? : List Char → Option (Nat × List Char)
  | '\\' :: 'u' :: rest => do
    let (n, rest) ← codeUnit? rest
    if isLowHalf n then some (n, rest) else none
  | _ => none

/-- Reads a string after its opening quote; `done` holds its characters, the last one first. -/
def stringFrom : Nat → Option (List Char) → List Char → Option (Option String × List Char)
  | 0, _, _ => none
  | _ + 1, _, [] => none
  | fuel + 1, done, '\\' :: 'u' :: rest => do
    let (n, rest) ← codeUnit? rest
    if isHighHalf n then
      match lowHalf? rest with
      | some (low, rest) =>
        let c := Char.ofNat (0x10000 + (n - 0xD800) * 1024 + (low - 0xDC00))
        stringFrom fuel (addChar c done) rest
      | none => stringFrom fuel none rest
    else if isLowHalf n then stringFrom fuel none rest
    else stringFrom fuel (addChar (Char.ofNat n) done) rest
  | fuel + 1, done, '\\' :: c :: rest => do
    stringFrom fuel (addChar (← simpleEscape? c) done) rest
  | fuel + 1, done, c :: rest =>
    if c = '"' then some (done.map fun cs => String.ofList cs.reverse, rest)
    else if c = '\\' || c.toNat < 32 then none
    else stringFrom fuel (addChar c done) rest

def string (cs : List Char) : Option (Option String × List Char) :=
  stringFrom (cs.length + 1) (some []) cs

def word (text : String) (value : Json) (cs : List Char) : Option (Json × List Char) :=
  if text.toList.isPrefixOf cs then some (value, cs.drop text.length) else none

mutual

/-- Reads a value after the blanks in front of it. -/
def value : Nat → List Char → Option (Json × List Char)
  | 0, _ => none
  | fuel + 1, cs =>
    match skip cs with
    | '"' :: rest => (string rest).map fun (s, rest) => (.text s, rest)
    | '[' :: rest =>
      match skip rest with
      | ']' :: rest => some (.array [], rest)
      | rest => items fuel [] rest
    | '\x7b' :: rest =>
      match skip rest with
      | '\x7d' :: rest => some (.object [], rest)
      | rest => fields fuel [] rest
    | 'n' :: rest => word "ull" .null rest
    | 't' :: rest => word "rue" (.bool true) rest
    | 'f' :: rest => word "alse" (.bool false) rest
    | cs => number cs

def items : Nat → List Json → List Char → Option (Json × List Char)
  | 0, _, _ => none
  | fuel + 1, done, cs => do
    let (v, rest) ← value fuel cs
    match skip rest with
    | ',' :: rest => items fuel (v :: done) rest
    | ']' :: rest => some (.array (v :: done).reverse, rest)
    | _ => none

def fields : Nat → List (Option String × Json) → List Char → Option (Json × List Char)
  | 0, _, _ => none
  | fuel + 1, done, cs => do
    match skip cs with
    | '"' :: rest =>
      let (key, rest) ← string rest
      match skip rest with
      | ':' :: rest =>
        let (v, rest) ← value fuel rest
        match skip rest with
        | ',' :: rest => fields fuel ((key, v) :: done) rest
        | '\x7d' :: rest => some (.object ((key, v) :: done).reverse, rest)
        | _ => none
      | _ => none
    | _ => none

end

/-- Reads a text that holds one value and nothing else. -/
def ofText? (s : String) : Option Json := do
  let cs := s.toList
  let (v, rest) ← value (cs.length + 2) cs
  if (skip rest).isEmpty then some v else none

end DocStore.Json
