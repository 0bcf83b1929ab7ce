import DocStore.Regex.Syntax.Bracket
import DocStore.Numeric.Reading
/-!
Reading of patterns. The pattern is read from left to right with a stack of the groups that are
open. Repetition takes the item before it; modes that are set inside a group end with the group.
-/
namespace DocStore.Regex

/-- A pattern with the depth to which its text is nested. -/
structure Piece where
  regex : Regex
  depth : Nat

/-- A group under way: finished branches and the items of the present one, both with the last one
first. An item without a pattern is a change of modes. `outer` holds the modes that return when
the group ends. -/
structure Group where
  outer : Modes
  branches : List Piece
  items : List (Option Piece)

structure Reader where
  flags : Modes
  names : List String
  group : Group
  enclosing : List Group

def nestedDepth (depths : List Nat) : Nat :=
  match depths with
  | [] => 0
  | [depth] => depth
  | depths => 1 + depths.foldl max 0

namespace Group

def branch (g : Group) : Piece :=
  ⟨g.items.foldl (fun tail item =>
      match item, tail with
      | none, _ => tail
      | some p, .empty => p.regex
      | some p, _ => .sequence p.regex tail) .empty,
    nestedDepth (g.items.map fun item => (item.map Piece.depth).getD 0)⟩

def nextBranch (g : Group) : Group := { g with branches := g.branch :: g.branches, items := [] }

def body (g : Group) : Piece :=
  let last := g.branch
  ⟨g.branches.foldl (fun r p => .alternative p.regex r) last.regex,
    nestedDepth (last.depth :: g.branches.map Piece.depth)⟩

end Group

namespace Reader

def add (r : Reader) (item : Option Piece) : Reader :=
  { r with group := { r.group with items := item :: r.group.items } }

def addRegex (r : Reader) (regex : Regex) : Reader := r.add (some ⟨regex, 0⟩)

/-- Opens a group that is read under `inner`. -/
def openGroup (r : Reader) (inner : Modes) : Reader :=
  { r with flags := inner, group := ⟨r.flags, [], []⟩, enclosing := r.group :: r.enclosing }

def closeGroup (r : Reader) : Option Reader :=
  match r.enclosing with
  | [] => none
  | group :: enclosing =>
    let body := r.group.body
    some ({ r with flags := r.group.outer, group, enclosing }.add
      (some { body with depth := body.depth + 1 }))

/-- Repeats the last item; there is to be one, and not a change of modes. -/
def repeatLast (r : Reader) (least : Nat) (most : Option Nat) : Option Reader :=
  match r.group.items with
  | some p :: items =>
    some { r with group := { r.group with
      items := some ⟨p.regex.repeated least most, p.depth + 1⟩ :: items } }
  | _ => none

end Reader

/-- A question mark after a repetition asks for short matches first, which changes none. -/
def dropLazy : List Char → List Char
  | '?' :: rest => rest
  | cs => cs

def isNameStart (c : Char) : Bool := c == '_' || Unicode.isAlphabetic c

def isNameRest (c : Char) : Bool :=
  isNameStart c || c == '.' || c == '[' || c == ']' ||
    [Unicode.Category.Nd, .Nl, .No].contains (Unicode.category c)

/-- Reads the name of a group up to its closing angle bracket. -/
def groupName (cs : List Char) : Option (String × List Char) := do
  let (name, rest) ← cutAt ['>'] cs
  match name with
  | [] => none
  | c :: more =>
    if isNameStart c && more.all isNameRest then return (String.ofList name, rest) else none

/-- Reads what follows an opening parenthesis. -/
def openParenthesis (r : Reader) (cs : List Char) : Option (Reader × List Char) := do
  let named (cs : List Char) : Option (Reader × List Char) := do
    let (name, rest) ← groupName cs
    if r.names.contains name then none
    else return ({ r with names := name :: r.names }.openGroup r.flags, rest)
  match r.flags.skip cs with
  | '?' :: '=' :: _ | '?' :: '!' :: _ | '?' :: '<' :: '=' :: _ | '?' :: '<' :: '!' :: _ => none
  | '?' :: 'P' :: '<' :: rest | '?' :: '<' :: rest => named rest
  | '?' :: rest =>
    let (flags, hasLetter, rest) ← r.flags.read [] false false rest
    match rest with
    | ')' :: rest => if hasLetter then return ({ r with flags }.add none, rest) else none
    | rest => return (r.openGroup flags, rest.drop 1)
  | rest => return (r.openGroup r.flags, rest)

/-- Reads a decimal number with blanks around it: `none` if there is no digit, and no reading at
all if it does not fit in 32 bits. -/
def decimal (flags : Modes) : Nat → List Char → List Char → List Char × List Char
  | fuel + 1, digits, c :: rest =>
    if c.isDigit then decimal flags fuel (c :: digits) (flags.skip rest)
    else (digits.reverse, c :: rest)
  | _, digits, cs => (digits.reverse, cs)

def count (flags : Modes) (cs : List Char) : Option (Option Nat × List Char) :=
  let cs := cs.dropWhile Text.isBlank
  let (digits, rest) := decimal flags cs.length [] cs
  let rest := flags.skip (rest.dropWhile Text.isBlank)
  if digits.isEmpty then some (none, rest)
  else
    let n := digits.foldl (fun n c => 10 * n + (c.toNat - '0'.toNat)) 0
    if n ≤ 0xffffffff then some (some n, rest) else none

/-- Reads bounds of a repetition, after their opening brace. -/
def bounds (flags : Modes) (cs : List Char) : Option ((Nat × Option Nat) × List Char) := do
  let finish (least : Nat) (most : Option Nat) (cs : List Char) :
      Option ((Nat × Option Nat) × List Char) :=
    match cs with
    | '\x7d' :: rest =>
      if most.all (least ≤ ·) then some ((least, most), dropLazy (flags.skip rest)) else none
    | _ => none
  let (least, rest) ← count flags (flags.skip cs)
  match rest with
  | ',' :: rest =>
    match flags.skip rest with
    | '\x7d' :: rest => finish (← least) none ('\x7d' :: rest)
    | rest =>
      let (most, rest) ← count flags rest
      finish (← least) (some (← most)) rest
  | rest => finish (← least) (← least) rest

def dot (flags : Modes) : Option CharClass :=
  if !flags.unicode then none
  else if flags.dotMatchesNewline then some .any
  else if flags.carriageReturns then
    some (.complement (.union (.single '\n') (.single '\r')))
  else some (.complement (.single '\n'))

def addEscape (r : Reader) : Escape → Reader
  | .literal c => r.addRegex (.character (r.flags.fold (.single c)))
  | .set c => r.addRegex (.character c)
  | .anchor a => r.addRegex (.anchor a)

/-- Reads one item, or one sign that works on the items before it. -/
def readItem (r : Reader) (c : Char) (rest : List Char) : Option (Reader × List Char) := do
  match c with
  | '(' => openParenthesis r rest
  | ')' => return (← r.closeGroup, rest)
  | '|' => return ({ r with group := r.group.nextBranch }, rest)
  | '[' =>
    let (nested, rest) ← Bracket.read r.flags rest
    return (r.add (some ⟨.character nested.set, nested.depth⟩), rest)
  | '?' => return (← r.repeatLast 0 (some 1), dropLazy rest)
  | '*' => return (← r.repeatLast 0 none, dropLazy rest)
  | '+' => return (← r.repeatLast 1 none, dropLazy rest)
  | '\x7b' =>
    let ((least, most), rest) ← bounds r.flags rest
    return (← r.repeatLast least most, rest)
  | '\\' =>
    let (e, rest) ← escape r.flags rest
    return (addEscape r e, rest)
  | '.' => return (r.addRegex (.character (← dot r.flags)), rest)
  | '^' =>
    return (r.addRegex (.anchor (if r.flags.multiline then .lineStart r.flags.carriageReturns
      else .textStart)), rest)
  | '$' =>
    return (r.addRegex (.anchor (if r.flags.multiline then .lineEnd r.flags.carriageReturns
      else .textEnd)), rest)
  | c => return (addEscape r (.literal c), rest)

def readFrom : Nat → Reader → List Char → Option Reader
  | 0, _, _ => none
  | fuel + 1, r, cs =>
    match r.flags.skip cs with
    | [] => some r
    | c :: rest => do
      let (r, rest) ← readItem r c rest
      readFrom fuel r rest

/-- How deep the text of a pattern may be nested. -/
def depthLimit : Nat := 250

/-- How large a compiled pattern may be, in bytes. -/
def sizeLimit : Nat := 10 * 1024 * 1024

/-- What is said of every pattern that cannot be read. -/
def malformed : Refusal := .malformed "malformed pattern"

/-- Reads a pattern under the modes given from outside. -/
def ofPattern (flags : Flags) (pattern : String) : Except Refusal Regex :=
  let cs := pattern.toList
  let modes : Modes := { flags with }
  match readFrom (cs.length + 1) ⟨modes, [], ⟨modes, [], []⟩, []⟩ cs with
  | some ⟨_, _, group, []⟩ =>
    let body := group.body
    if depthLimit < body.depth then .error malformed
    else if sizeLimit < body.regex.size then .error (.tooLarge sizeLimit)
    else .ok body.regex
  | _ => .error malformed

end DocStore.Regex
