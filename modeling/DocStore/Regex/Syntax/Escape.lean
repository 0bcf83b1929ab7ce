import DocStore.Regex.Basic
import DocStore.Regex.Property
import DocStore.Regex.Syntax.Flags
import DocStore.Text.Hex
/-!
What a backslash introduces: a character, a set of characters or a condition on a place.
-/
namespace DocStore.Regex

inductive Escape where
  | literal (c : Char)
  | set (c : CharClass)
  | anchor (a : Anchor)

def metaCharacters : List Char :=
  ['\\', '.', '+', '*', '?', '(', ')', '|', '[', ']', '\x7b', '\x7d', '^', '$', '#', '&', '-', '~']

def isMeta (c : Char) : Bool := metaCharacters.contains c

/-- Characters that may be escaped although they have no other meaning: ASCII outside letters,
digits and angle brackets. -/
def isEscapable (c : Char) : Bool :=
  isMeta c || (decide (c.toNat < 128) && !c.isAlphanum && c != '<' && c != '>')

def character? (n : Nat) : Option Char := if n.isValidChar then some (Char.ofNat n) else none

/-- Reads exactly `count` hexadecimal digits. -/
def hexDigits (flags : Modes) : Nat → List Char → List Char → Option (List Char × List Char)
  | 0, digits, cs => some (digits.reverse, cs)
  | count + 1, digits, c :: rest =>
    if (Hex.value? c).isSome then hexDigits flags count (c :: digits) (flags.skip rest) else none
  | _ + 1, _, [] => none

/-- Reads hexadecimal digits up to a closing brace. -/
def hexBraced (flags : Modes) : Nat → List Char → List Char → Option (List Char × List Char)
  | 0, _, _ => none
  | fuel + 1, digits, cs =>
    match flags.skip cs with
    | [] => none
    | '\x7d' :: rest => if digits.isEmpty then none else some (digits.reverse, flags.skip rest)
    | c :: rest => if (Hex.value? c).isSome then hexBraced flags fuel (c :: digits) rest else none

/-- Reads a character given by its number. Two plain digits give a byte, which outside Unicode mode
is a character only in ASCII. -/
def hexEscape (flags : Modes) (width : Nat) (cs : List Char) : Option (Escape × List Char) := do
  match flags.skip cs with
  | '\x7b' :: rest =>
    let (digits, rest) ← hexBraced flags (rest.length + 1) [] rest
    return (.literal (← character? (← Hex.number? digits)), rest)
  | cs =>
    let (digits, rest) ← hexDigits flags width [] cs
    let c ← character? (← Hex.number? digits)
    if width = 2 && !flags.unicode && !decide (c.toNat < 128) then none
    else return (.literal c, rest)

/-- Reads up to a closing brace. -/
def braced (flags : Modes) : Nat → List Char → List Char → Option (List Char × List Char)
  | 0, _, _ => none
  | fuel + 1, done, cs =>
    match flags.skip cs with
    | [] => none
    | '\x7d' :: rest => some (done.reverse, rest)
    | c :: rest => braced flags fuel (c :: done) rest

/-- Cuts a text at the first occurrence of `mark`. -/
def cutAt (mark : List Char) : List Char → Option (List Char × List Char)
  | [] => none
  | c :: rest =>
    if mark.isPrefixOf (c :: rest) then some ([], (c :: rest).drop mark.length)
    else (cutAt mark rest).map fun (before, after) => (c :: before, after)

/-- The set of a named property, or of a property with a value, and whether it is turned around. -/
def propertySet (name : List Char) : Option (CharClass × Bool) :=
  let valued (mark : List Char) (negated : Bool) : Option (Option (CharClass × Bool)) :=
    (cutAt mark name).map fun (property, value) =>
      (CharClass.valued? (String.ofList property) (String.ofList value)).map (·, negated)
  match valued ['!', '='] true <|> valued [':'] false <|> valued ['='] false with
  | some set => set
  | none => (CharClass.named? (String.ofList name)).map (·, false)

def propertyEscape (flags : Modes) (negated : Bool) (cs : List Char) :
    Option (Escape × List Char) := do
  if !flags.unicode then none
  let finish (name rest : List Char) : Option (Escape × List Char) := do
    let (set, turned) ← propertySet name
    return (.set (← flags.close (negated != turned) set), rest)
  match flags.skip cs with
  | [] => none
  | '\x7b' :: rest =>
    let (name, rest) ← braced flags (rest.length + 1) [] rest
    finish name rest
  | '\\' :: _ => none
  | c :: rest => finish [c] (flags.skip rest)

def classEscape (flags : Modes) (negated : Bool) (unicode ascii : CharClass) (cs : List Char) :
    Option (Escape × List Char) := do
  return (.set (← { flags with caseless := false }.close negated
    (if flags.unicode then unicode else ascii)), cs)

def isEdgeName (c : Char) : Bool := c.isAlpha || c == '-'

def edge? : List Char → Option WordEdge
  | ['s', 't', 'a', 'r', 't'] => some .start
  | ['e', 'n', 'd'] => some .finish
  | ['s', 't', 'a', 'r', 't', '-', 'h', 'a', 'l', 'f'] => some .startHalf
  | ['e', 'n', 'd', '-', 'h', 'a', 'l', 'f'] => some .finishHalf
  | _ => none

/-- After the letter `b`: a plain word boundary, or one of the four kinds that are named in
braces. Braces that hold something else belong to what follows. -/
def boundaryEscape (flags : Modes) (cs : List Char) : Option (Escape × List Char) := do
  let ascii := !flags.unicode
  match cs with
  | '\x7b' :: rest =>
    match flags.skip rest with
    | [] => none
    | c :: _ =>
      if isEdgeName c then
        let (name, rest) ← braced flags (rest.length + 1) [] rest
        return (.anchor (.word (← edge? name) ascii), rest)
      else return (.anchor (.word .boundary ascii), cs)
  | _ => return (.anchor (.word .boundary ascii), cs)

/-- Reads what follows a backslash. -/
def escape (flags : Modes) : List Char → Option (Escape × List Char)
  | [] => none
  | c :: rest =>
    let ascii := !flags.unicode
    let asciiDigit := CharClass.ofRanges [('0', '9')]
    let asciiBlank := CharClass.ofRanges [('\t', '\r'), (' ', ' ')]
    let asciiWord := CharClass.ofRanges [('0', '9'), ('A', 'Z'), ('_', '_'), ('a', 'z')]
    match c with
    | 'x' => hexEscape flags 2 rest
    | 'u' => hexEscape flags 4 rest
    | 'U' => hexEscape flags 8 rest
    | 'p' => propertyEscape flags false rest
    | 'P' => propertyEscape flags true rest
    | 'd' => classEscape flags false CharClass.decimalDigit asciiDigit rest
    | 'D' => classEscape flags true CharClass.decimalDigit asciiDigit rest
    | 's' => classEscape flags false .blank asciiBlank rest
    | 'S' => classEscape flags true .blank asciiBlank rest
    | 'w' => classEscape flags false .word asciiWord rest
    | 'W' => classEscape flags true .word asciiWord rest
    | 'a' => some (.literal '\x07', rest)
    | 'f' => some (.literal '\x0c', rest)
    | 't' => some (.literal '\t', rest)
    | 'n' => some (.literal '\n', rest)
    | 'r' => some (.literal '\r', rest)
    | 'v' => some (.literal '\x0b', rest)
    | 'A' => some (.anchor .textStart, rest)
    | 'z' => some (.anchor .textEnd, rest)
    | 'b' => boundaryEscape flags rest
    | 'B' => some (.anchor (.word .interior ascii), rest)
    | '<' => some (.anchor (.word .start ascii), rest)
    | '>' => some (.anchor (.word .finish ascii), rest)
    | c => if isEscapable c then some (.literal c, rest) else none

end DocStore.Regex
