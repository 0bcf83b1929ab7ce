import DocStore.Regex.Syntax.Escape
/-!
Sets of characters in brackets: characters, ranges, escapes, named classes of ASCII and nested
brackets side by side make a union, and three operators combine unions from left to right.
-/
namespace DocStore.Regex

inductive SetOperator where
  | intersection
  | difference
  | symmetricDifference

/-- A set with the depth to which its text is nested. -/
structure NestedSet where
  set : CharClass
  depth : Nat

/-- A bracket under way: the operand that waits for the end of the next one, and the items of that
one, the last first. -/
structure Bracket where
  negated : Bool
  waiting : Option (SetOperator × NestedSet)
  items : List NestedSet

namespace Bracket

/-- The union of the items. -/
def operand (b : Bracket) : NestedSet :=
  match b.items with
  | [] => ⟨.nothing, 0⟩
  | [item] => item
  | items => ⟨items.foldl (fun set item => .union item.set set) .nothing,
      1 + items.foldl (fun depth item => max depth item.depth) 0⟩

/-- The operand that has just ended, combined with the one that waited for it. -/
def total (flags : Modes) (b : Bracket) : NestedSet :=
  let right := b.operand
  match b.waiting with
  | none => right
  | some (operator, left) =>
    let l := flags.fold left.set
    let r := flags.fold right.set
    let set := match operator with
      | .intersection => CharClass.intersection l r
      | .difference => .difference l r
      | .symmetricDifference => .symmetricDifference l r
    ⟨set, 1 + max left.depth right.depth⟩

def operate (flags : Modes) (operator : SetOperator) (b : Bracket) : Bracket :=
  { b with waiting := some (operator, b.total flags), items := [] }

def add (b : Bracket) (item : NestedSet) : Bracket := { b with items := item :: b.items }

def close (flags : Modes) (b : Bracket) : Option NestedSet := do
  let total := b.total flags
  return ⟨← flags.close b.negated total.set, 1 + total.depth⟩

/-- Hyphens that open a bracket stand for themselves. -/
def openHyphens (flags : Modes) : Nat → Bracket → List Char → Bracket × List Char
  | fuel + 1, b, '-' :: rest =>
    openHyphens flags fuel (b.add ⟨.single '-', 0⟩) (flags.skip rest)
  | _, b, cs => (b, cs)

/-- Opens a bracket after its sign: a circumflex, hyphens, and a closing bracket that comes first
and so stands for itself. -/
def start (flags : Modes) (cs : List Char) : Bracket × List Char :=
  let (negated, cs) := match flags.skip cs with
    | '^' :: rest => (true, flags.skip rest)
    | cs => (false, cs)
  let (b, cs) := openHyphens flags cs.length ⟨negated, none, []⟩ cs
  match b.items, cs with
  | [], ']' :: rest => (b.add ⟨.single ']', 0⟩, flags.skip rest)
  | _, _ => (b, cs)

/-- A named class of ASCII such as `[:alpha:]`, after its opening bracket. -/
def asciiClass? (flags : Modes) : List Char → Option (Option CharClass × List Char)
  | ':' :: cs => do
    let (negated, cs) := match cs with
      | '^' :: rest => (true, rest)
      | cs => (false, cs)
    let (name, rest) ← cutAt [':'] cs
    match rest with
    | ']' :: rest => return (flags.close negated (← CharClass.ascii? (String.ofList name)), rest)
    | _ => none
  | _ => none

/-- One item that may be an end of a range. -/
def item (flags : Modes) : List Char → Option (Escape × List Char)
  | [] => none
  | '\\' :: rest => escape flags rest
  | c :: rest => some (.literal c, rest)

/-- A character in a bracket; outside Unicode mode it is to be an ASCII one. -/
def literal? (flags : Modes) : Escape → Option Char
  | .literal c => if !flags.unicode && !decide (c.toNat < 128) then none else some c
  | _ => none

def itemSet? (flags : Modes) : Escape → Option CharClass
  | .set c => some c
  | .anchor _ => none
  | e => (literal? flags e).map .single

/-- The first character, past blanks in verbose mode, after the present one. -/
def following (flags : Modes) (cs : List Char) : Option Char := (flags.skip (cs.drop 1)).head?

/-- One item or a range. A hyphen makes a range unless a closing bracket or another hyphen
follows it. -/
def rangeOrItem (flags : Modes) (cs : List Char) : Option (CharClass × List Char) := do
  let (first, rest) ← item flags cs
  let rest := flags.skip rest
  if rest.isEmpty then none
  let next := following flags rest
  if rest.head? != some '-' || next == some ']' || next == some '-' then
    return (← itemSet? flags first, rest)
  let (last, rest) ← item flags (flags.skip (rest.drop 1))
  let low ← literal? flags first
  let high ← literal? flags last
  if low.toNat ≤ high.toNat then return (.range low.toNat high.toNat, rest) else none

/-- Reads to the bracket that closes the outermost one. -/
def readFrom (flags : Modes) : Nat → Bracket → List Bracket → List Char →
    Option (NestedSet × List Char)
  | 0, _, _, _ => none
  | fuel + 1, b, outer, cs =>
    match flags.skip cs with
    | [] => none
    | '[' :: rest =>
      match asciiClass? flags rest with
      | some (set, rest) => do readFrom flags fuel (b.add ⟨← set, 0⟩) outer rest
      | none =>
        let (inner, rest) := start flags rest
        readFrom flags fuel inner (b :: outer) rest
    | ']' :: rest => do
      let closed ← b.close flags
      match outer with
      | [] => return (closed, rest)
      | enclosing :: outer => readFrom flags fuel (enclosing.add closed) outer rest
    | '&' :: '&' :: rest => readFrom flags fuel (b.operate flags .intersection) outer rest
    | '-' :: '-' :: rest => readFrom flags fuel (b.operate flags .difference) outer rest
    | '~' :: '~' :: rest => readFrom flags fuel (b.operate flags .symmetricDifference) outer rest
    | cs => do
      let (set, rest) ← rangeOrItem flags cs
      readFrom flags fuel (b.add ⟨set, 0⟩) outer rest

/-- Reads a bracket after its opening sign. -/
def read (flags : Modes) (cs : List Char) : Option (NestedSet × List Char) :=
  let (b, rest) := start flags cs
  readFrom flags (rest.length + 1) b [] rest

end Bracket

end DocStore.Regex
