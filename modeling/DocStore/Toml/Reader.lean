import DocStore.Toml.Scalar
/-!
Reading of TOML, line by line: headers open tables, and other lines add entries to the table that is
open.
-/
namespace DocStore.Toml

def isBareKeyChar (c : Char) : Bool := c.isAlphanum || c == '_' || c == '-'

def keyPart? (cs : List Char) : TextReading :=
  match cs with
  | '"' :: _ | '\'' :: _ => lineText? cs
  | cs =>
    let (bare, rest) := cs.span isBareKeyChar
    if bare.isEmpty then none else some (String.ofList bare, rest)

/-- Reads a key of parts with dots between them, and the blanks after it. -/
def key? : Nat → List Char → Option (List String × List Char)
  | 0, _ => none
  | fuel + 1, cs => do
    let (part, rest) ← keyPart? (skipSpaces cs)
    match skipSpaces rest with
    | '.' :: rest =>
      let (parts, rest) ← key? fuel rest
      return (part :: parts, rest)
    | rest => return ([part], rest)

/-- Drops a comment up to the end of its line. -/
def skipComment? (cs : List Char) : Option (List Char) :=
  match cs with
  | '#' :: rest =>
    let rest := rest.dropWhile isPlain
    if rest.isEmpty || (newline? rest).isSome then some rest else none
  | cs => some cs

/-- Drops blanks, line breaks and comments between the items of an array. -/
def skipLines? : Nat → List Char → Option (List Char)
  | 0, _ => none
  | fuel + 1, cs =>
    match skipSpaces cs with
    | '#' :: rest => do skipLines? fuel (← skipComment? ('#' :: rest))
    | cs =>
      match newline? cs with
      | some rest => skipLines? fuel rest
      | none => some cs

/-- How deep values may be nested. -/
def maxDepth : Nat := 80

mutual

def value? : Nat → Nat → List Char → Option (Toml × List Char)
  | 0, _, _ => none
  | fuel + 1, depth, cs =>
    match cs with
    | '"' :: _ | '\'' :: _ => (text? cs).map fun (s, rest) => (.text s, rest)
    | '[' :: rest => if depth = 0 then none else items? fuel (depth - 1) [] rest
    | '\x7b' :: rest =>
      if depth = 0 then none
      else
        match skipSpaces rest with
        | '\x7d' :: rest => some (.table .inline [], rest)
        | rest => inlineEntries? fuel (depth - 1) [] rest
    | cs => scalar? cs

def items? : Nat → Nat → List Toml → List Char → Option (Toml × List Char)
  | 0, _, _, _ => none
  | fuel + 1, depth, done, cs => do
    match ← skipLines? (cs.length + 1) cs with
    | ']' :: rest => return (.array done.reverse, rest)
    | cs =>
      let (v, rest) ← value? fuel depth cs
      match ← skipLines? (rest.length + 1) rest with
      | ',' :: rest => items? fuel depth (v :: done) rest
      | ']' :: rest => return (.array (v :: done).reverse, rest)
      | _ => none

/-- Entries of a table in braces, after its opening brace, on one line. -/
def inlineEntries? : Nat → Nat → Entries → List Char → Option (Toml × List Char)
  | 0, _, _, _ => none
  | fuel + 1, depth, entries, cs => do
    let (path, rest) ← key? (cs.length + 1) cs
    let (v, rest) ← value? fuel depth (skipSpaces (← expect? '=' rest))
    let entries ← addValue path v .header entries
    match skipSpaces rest with
    | ',' :: rest => inlineEntries? fuel depth entries rest
    | '\x7d' :: rest => return (.table .inline entries, rest)
    | _ => none

end

/-- Ends a line: blanks, a comment, and a line break or the end of the text. -/
def endLine? (cs : List Char) : Option (List Char) := do
  let rest ← skipComment? (skipSpaces cs)
  if rest.isEmpty then some [] else newline? rest

/-- Reads the line of an entry of the open table. -/
def entryLine? (header : List String) (root : Entries) (cs : List Char) :
    Option (Entries × List Char) := do
  let (path, rest) ← key? (cs.length + 1) cs
  let rest := skipSpaces (← expect? '=' rest)
  let (v, rest) ← value? (rest.length + 1) maxDepth rest
  let root ← descend false (addValue path v) header .header root
  return (root, ← endLine? rest)

def readLines? : Nat → List String → Entries → List Char → Option Entries
  | 0, _, _, _ => none
  | fuel + 1, header, root, cs =>
    match skipSpaces cs with
    | [] => some root
    | '[' :: '[' :: rest => do
      let (path, rest) ← key? (rest.length + 1) rest
      let rest ← expect? ']' (← expect? ']' rest)
      readLines? fuel path (← openNext path root) (← endLine? rest)
    | '[' :: rest => do
      let (path, rest) ← key? (rest.length + 1) rest
      let rest ← expect? ']' rest
      readLines? fuel path (← openTable path root) (← endLine? rest)
    | '#' :: rest => do readLines? fuel header root (← endLine? ('#' :: rest))
    | cs =>
      match newline? cs with
      | some rest => readLines? fuel header root rest
      | none => do
        let (root, rest) ← entryLine? header root cs
        readLines? fuel header root rest

/-- Reads a whole text; a mark of byte order in front of it is passed over. -/
def ofText? (s : String) : Option Entries :=
  let cs := match s.toList with
    | '\ufeff' :: rest => rest
    | cs => cs
  readLines? (cs.length + 1) [] [] cs

end DocStore.Toml
