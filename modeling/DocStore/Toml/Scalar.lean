import DocStore.Toml.Basic
import DocStore.Toml.Text
import DocStore.Time.Calendar
/-!
Numbers, booleans and dates of TOML.
-/
namespace DocStore.Toml

/-- Digits with single underscores between them. -/
def underscored? (isDigit : Char → Bool) : List Char → Option (List Char)
  | [] => none
  | [c] => if isDigit c then some [c] else none
  | c :: '_' :: rest => if isDigit c then (underscored? isDigit rest).map (c :: ·) else none
  | c :: rest => if isDigit c then (underscored? isDigit rest).map (c :: ·) else none

def ofDigits (base : Nat) (cs : List Char) : Nat :=
  cs.foldl (fun n c => base * n + (Hex.value? c).getD 0) 0

def sign (cs : List Char) : Bool × List Char :=
  match cs with
  | '+' :: rest => (false, rest)
  | '-' :: rest => (true, rest)
  | cs => (false, cs)

/-- Digits that do not start with a zero, unless it is the only one. -/
def decimalDigits? (cs : List Char) : Option (List Char) := do
  match ← underscored? Char.isDigit cs with
  | '0' :: _ :: _ => none
  | digits => some digits

/-- Integers of every base, as far as 128 bits go. -/
def integer? (cs : List Char) : Option Toml := do
  let based (base : Nat) (isDigit : Char → Bool) (cs : List Char) : Option Int := do
    return ofDigits base (← underscored? isDigit cs)
  let n ← match cs with
    | '0' :: 'x' :: rest => based 16 (fun c => (Hex.value? c).isSome) rest
    | '0' :: 'o' :: rest => based 8 (fun c => decide ('0' ≤ c ∧ c ≤ '7')) rest
    | '0' :: 'b' :: rest => based 2 (fun c => c == '0' || c == '1') rest
    | cs =>
      let (negative, cs) := sign cs
      (decimalDigits? cs).map fun digits =>
        let n : Int := ofDigits 10 digits
        if negative then -n else n
  if -0x80000000000000000000000000000000 ≤ n ∧ n ≤ 0xffffffffffffffffffffffffffffffff then
    some (.integer n)
  else none

/-- Cuts at the first of some characters, which stays with the second part. -/
def cutBefore (marks : List Char) (cs : List Char) : List Char × List Char :=
  cs.span fun c => !marks.contains c

def float? (cs : List Char) : Option Toml := do
  let (_, cs) := sign cs
  if cs = ['i', 'n', 'f'] || cs = ['n', 'a', 'n'] then return .float
  let (whole, rest) := cutBefore ['.', 'e', 'E'] cs
  let _ ← decimalDigits? whole
  let (fraction, exponent) := cutBefore ['e', 'E'] rest
  match fraction with
  | [] => pure ()
  | _ :: digits =>
    let _ ← underscored? Char.isDigit digits
  match exponent with
  | [] => if fraction.isEmpty then none else return .float
  | _ :: digits =>
    let _ ← underscored? Char.isDigit (sign digits).2
    return .float

/-- Two digits, or four. -/
def field? (width : Nat) (cs : List Char) : Option (Nat × List Char) :=
  let digits := cs.take width
  if digits.length = width && digits.all Char.isDigit then
    some (ofDigits 10 digits, cs.drop width)
  else none

def expect? (c : Char) : List Char → Option (List Char)
  | d :: rest => if d = c then some rest else none
  | [] => none

def day? (cs : List Char) : Option (List Char) := do
  let (year, cs) ← field? 4 cs
  let (month, cs) ← field? 2 (← expect? '-' cs)
  let (day, cs) ← field? 2 (← expect? '-' cs)
  if 1 ≤ month ∧ month ≤ 12 ∧ 1 ≤ day ∧ day ≤ CalendarDate.daysInMonth year month then some cs
  else none

def time? (cs : List Char) : Option (List Char) := do
  let (hour, cs) ← field? 2 cs
  let (minute, cs) ← field? 2 (← expect? ':' cs)
  let (second, cs) ← field? 2 (← expect? ':' cs)
  if 23 < hour ∨ 59 < minute ∨ 60 < second then none
  match cs with
  | '.' :: rest =>
    let (digits, rest) := rest.span Char.isDigit
    if digits.isEmpty then none else some rest
  | cs => some cs

def offset? : List Char → Option (List Char)
  | [] => some []
  | ['Z'] | ['z'] => some []
  | c :: rest => do
    if c ≠ '+' ∧ c ≠ '-' then none
    let (hour, cs) ← field? 2 rest
    let (minute, cs) ← field? 2 (← expect? ':' cs)
    if hour ≤ 23 ∧ minute ≤ 59 then some cs else none

/-- A day, a time of day, or both with or without an offset. -/
def date? (cs : List Char) : Option Toml := do
  let rest ← match day? cs with
    | some [] => pure []
    | some (c :: rest) =>
      if c = 'T' ∨ c = 't' ∨ c = ' ' then offset? (← time? rest) else none
    | none => time? cs
  if rest.isEmpty then some .date else none

def isScalarChar (c : Char) : Bool :=
  c.isAlphanum || c == '_' || c == '+' || c == '-' || c == '.' || c == ':'

/-- The characters of a value without quotes and brackets. A blank is among them only between a day
and a time. -/
def scalarChars (cs : List Char) : List Char × List Char :=
  let (head, rest) := cs.span isScalarChar
  match day? head, rest with
  | some [], ' ' :: d :: more =>
    if d.isDigit then
      let (tail, rest) := (d :: more).span isScalarChar
      (head ++ ' ' :: tail, rest)
    else (head, rest)
  | _, _ => (head, rest)

def scalar? (cs : List Char) : Option (Toml × List Char) := do
  let (chars, rest) := scalarChars cs
  let v ← match chars with
    | ['t', 'r', 'u', 'e'] => some (.bool true)
    | ['f', 'a', 'l', 's', 'e'] => some (.bool false)
    | chars => integer? chars <|> float? chars <|> date? chars
  return (v, rest)

end DocStore.Toml
