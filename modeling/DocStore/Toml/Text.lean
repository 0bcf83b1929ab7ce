import DocStore.Text.Hex
/-!
Texts of TOML: in double quotes with escapes, in single quotes as they are, and both on several
lines in tripled quotes. A line break in a text is one character, however it is written.
-/
namespace DocStore.Toml

/-- Characters that may stand in comments and texts: tabs, and all that are no controls. -/
def isPlain (c : Char) : Bool := c == '\t' || (decide (32 ≤ c.toNat) && c.toNat != 127)

def isSpace (c : Char) : Bool := c == ' ' || c == '\t'

def skipSpaces (cs : List Char) : List Char := cs.dropWhile isSpace

def newline? : List Char → Option (List Char)
  | '\n' :: rest => some rest
  | '\r' :: '\n' :: rest => some rest
  | _ => none

/-- A character given by four or eight digits. -/
def unicodeEscape? (width : Nat) (cs : List Char) : Option (Char × List Char) := do
  let digits := cs.take width
  if digits.length < width then none
  let n ← Hex.number? digits
  if n.isValidChar then some (Char.ofNat n, cs.drop width) else none

/-- What a backslash introduces in a text with escapes. -/
def escape? : List Char → Option (Char × List Char)
  | 'b' :: rest => some ('\x08', rest)
  | 't' :: rest => some ('\t', rest)
  | 'n' :: rest => some ('\n', rest)
  | 'f' :: rest => some ('\x0c', rest)
  | 'r' :: rest => some ('\r', rest)
  | '"' :: rest => some ('"', rest)
  | '\\' :: rest => some ('\\', rest)
  | 'u' :: rest => unicodeEscape? 4 rest
  | 'U' :: rest => unicodeEscape? 8 rest
  | _ => none

abbrev TextReading := Option (String × List Char)

/-- A text on one line, after its opening quote. -/
def basicFrom : Nat → List Char → List Char → TextReading
  | 0, _, _ => none
  | _ + 1, _, [] => none
  | fuel + 1, done, '\\' :: rest => do
    let (c, rest) ← escape? rest
    basicFrom fuel (c :: done) rest
  | fuel + 1, done, c :: rest =>
    if c = '"' then some (String.ofList done.reverse, rest)
    else if isPlain c then basicFrom fuel (c :: done) rest else none

/-- A text in single quotes on one line, after its opening quote. -/
def literalFrom (done : List Char) : List Char → TextReading
  | [] => none
  | c :: rest =>
    if c = '\'' then some (String.ofList done.reverse, rest)
    else if isPlain c then literalFrom (c :: done) rest else none

/-- Closes a text on several lines: of up to five quotes the last three are the mark. -/
def closing? (quote : Char) (done cs : List Char) : Option (List Char × List Char) :=
  let run := (cs.takeWhile (· == quote)).length
  if 3 ≤ run ∧ run ≤ 5 then
    some (List.replicate (run - 3) quote ++ done, cs.drop run)
  else none

/-- Drops blanks and line breaks after a backslash that ends a line. -/
def dropBlankLines (cs : List Char) : List Char :=
  cs.dropWhile fun c => isSpace c || c == '\n' || c == '\r'

/-- A text on several lines, with escapes if `escapes` says so, after its opening quotes. -/
def linesFrom (escapes : Bool) (quote : Char) : Nat → List Char → List Char → TextReading
  | 0, _, _ => none
  | fuel + 1, done, cs =>
    match closing? quote done cs with
    | some (done, rest) => some (String.ofList done.reverse, rest)
    | none =>
      match newline? cs, cs with
      | some rest, _ => linesFrom escapes quote fuel ('\n' :: done) rest
      | none, [] => none
      | none, c :: rest =>
        if c = quote then
          if 5 < (cs.takeWhile (· == quote)).length then none
          else linesFrom escapes quote fuel (c :: done) rest
        else if escapes && c = '\\' then
          if (newline? (skipSpaces rest)).isSome then
            linesFrom escapes quote fuel done (dropBlankLines rest)
          else do
            let (c, rest) ← escape? rest
            linesFrom escapes quote fuel (c :: done) rest
        else if isPlain c then linesFrom escapes quote fuel (c :: done) rest
        else none

/-- A line break right after the opening quotes is no part of a text. -/
def afterOpening (cs : List Char) : List Char := (newline? cs).getD cs

/-- Reads a text on one line, as keys may be. -/
def lineText? : List Char → TextReading
  | '"' :: rest => basicFrom (rest.length + 1) [] rest
  | '\'' :: rest => literalFrom [] rest
  | _ => none

/-- Reads a text of any of the four kinds. -/
def text? : List Char → TextReading
  | '"' :: '"' :: '"' :: rest => linesFrom true '"' (rest.length + 1) [] (afterOpening rest)
  | '\'' :: '\'' :: '\'' :: rest => linesFrom false '\'' (rest.length + 1) [] (afterOpening rest)
  | cs => lineText? cs

end DocStore.Toml
