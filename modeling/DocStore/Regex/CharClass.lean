import DocStore.Unicode.Script
import DocStore.Unicode.Case
import DocStore.Text.Blank
/-!
Sets of characters that a pattern can name. Membership is decided by recursion on the way the set
was written down. A set is closed under case folding when it is to hold every character that
differs from a member in case alone.
-/
namespace DocStore

inductive CharClass where
  | nothing
  | range (first last : Nat)
  | category (categories : List Unicode.Category)
  | script (code : String)
  | word
  | blank
  | alphabetic
  | lowercase
  | uppercase
  | cased
  | caseIgnorable
  | graphemeExtend
  | complement (c : CharClass)
  | union (c d : CharClass)
  | intersection (c d : CharClass)
  | difference (c d : CharClass)
  | symmetricDifference (c d : CharClass)
  | folded (c : CharClass)
  | asciiFolded (c : CharClass)

namespace CharClass

def single (c : Char) : CharClass := .range c.toNat c.toNat

def any : CharClass := .complement .nothing

def ofRanges (ranges : List (Char × Char)) : CharClass :=
  ranges.foldr (fun (first, last) rest => .union (.range first.toNat last.toNat) rest) .nothing

def asciiOrbit (c : Char) : List Char := [c, c.toLower, c.toUpper]

def contains : CharClass → Char → Bool
  | .nothing, _ => false
  | .range first last, x => decide (first ≤ x.toNat ∧ x.toNat ≤ last)
  | .category categories, x => categories.contains (Unicode.category x)
  | .script code, x => Unicode.script x == code
  | .word, x => Unicode.isWord x
  | .blank, x => Text.isBlank x
  | .alphabetic, x => Unicode.isAlphabetic x
  | .lowercase, x => Unicode.isLowercase x
  | .uppercase, x => Unicode.isUppercase x
  | .cased, x => Unicode.isCased x
  | .caseIgnorable, x => Unicode.isCaseIgnorable x
  | .graphemeExtend, x => Unicode.isGraphemeExtend x
  | .complement c, x => !c.contains x
  | .union c d, x => c.contains x || d.contains x
  | .intersection c d, x => c.contains x && d.contains x
  | .difference c d, x => c.contains x && !d.contains x
  | .symmetricDifference c d, x => c.contains x != d.contains x
  | .folded c, x => (Unicode.foldOrbit x).any c.contains
  | .asciiFolded c, x => (asciiOrbit x).any c.contains

/-- Whether the set holds characters beyond ASCII. Sets that are built from ASCII ranges, folded in
ASCII, treat all characters beyond it alike, so one of them tells. -/
def leavesAscii (c : CharClass) : Bool := c.contains (Char.ofNat 0x80)

/-- How much room the set takes in a compiled pattern, in bytes, roughly. -/
def weight : CharClass → Nat
  | .nothing => 32
  | .range first last => if last < 0x80 then 16 else if first = last then 96 else 192
  | .category categories => 8000 * categories.length
  | .script _ => 2000
  | .word => 50000
  | .blank => 800
  | .alphabetic | .lowercase | .uppercase | .cased | .caseIgnorable | .graphemeExtend => 40000
  | .complement c => c.weight + 400
  | .union c d | .intersection c d | .difference c d | .symmetricDifference c d =>
    c.weight + d.weight
  | .folded c | .asciiFolded c => 2 * c.weight

end CharClass

end DocStore
