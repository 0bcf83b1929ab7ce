import DocStore.Regex.CharClass
/-!
Regular expressions over text and the search for a match. A pattern takes a set of places in the
text to the set of places at which a match that starts in the first set can end; so whether a
pattern matches anywhere is whether the places reached from all places are any.
-/
namespace DocStore

namespace Regex

/-- How a place relates to the words around it. -/
inductive WordEdge where
  | boundary
  | interior
  | start
  | finish
  | startHalf
  | finishHalf
deriving DecidableEq, Repr

/-- Conditions on a place that take up no text. -/
inductive Anchor where
  | textStart
  | textEnd
  | lineStart (carriageReturns : Bool)
  | lineEnd (carriageReturns : Bool)
  | word (edge : WordEdge) (asciiOnly : Bool)
deriving DecidableEq, Repr

def WordEdge.holds (edge : WordEdge) (before after : Bool) : Bool :=
  match edge with
  | .boundary => before != after
  | .interior => before == after
  | .start => !before && after
  | .finish => before && !after
  | .startHalf => !before
  | .finishHalf => !after

/-- Whether the condition holds between two characters, where `none` is an end of the text. -/
def Anchor.holds (before after : Option Char) : Anchor → Bool
  | .textStart => before.isNone
  | .textEnd => after.isNone
  | .lineStart false => before.isNone || before == some '\n'
  | .lineStart true =>
    before.isNone || before == some '\n' || (before == some '\r' && after != some '\n')
  | .lineEnd false => after.isNone || after == some '\n'
  | .lineEnd true =>
    after.isNone || after == some '\r' || (after == some '\n' && before != some '\r')
  | .word edge asciiOnly =>
    let isWord := if asciiOnly then Unicode.isAsciiWord else Unicode.isWord
    edge.holds (before.any isWord) (after.any isWord)

end Regex

inductive Regex where
  | empty
  | character (c : CharClass)
  | anchor (a : Regex.Anchor)
  | sequence (r s : Regex)
  | alternative (r s : Regex)
  | repetition (r : Regex) (least : Nat) (most : Option Nat)

namespace Regex

def literal (c : Char) : Regex := .character (.single c)

/-- Whether no match takes up text. -/
def isWidthless : Regex → Bool
  | .empty | .anchor _ => true
  | .character _ => false
  | .sequence r s | .alternative r s => r.isWidthless && s.isWidthless
  | .repetition r _ _ => r.isWidthless

/-- Repeats a pattern. More than one round of a pattern that takes up no text says no more than
one round does. -/
def repeated (r : Regex) (least : Nat) (most : Option Nat) : Regex :=
  if r.isWidthless then .repetition r (min least 1) (some (min (most.getD 1) 1))
  else .repetition r least most

/-- The size of the compiled pattern in bytes, roughly: bounded repetition is by copies. -/
def size : Regex → Nat
  | .empty => 0
  | .character c => 32 + c.weight
  | .anchor _ => 32
  | .sequence r s => r.size + s.size
  | .alternative r s => 48 + r.size + s.size
  | .repetition r least most =>
    match most with
    | none => 48 + max least 1 * r.size
    | some most => most * (32 + r.size)

/-- Adds places that are not there yet. -/
def insertNew (places more : List Nat) : List Nat :=
  places ++ more.filter fun p => !places.contains p

def times (step : List Nat → List Nat) : Nat → List Nat → List Nat
  | 0, places => places
  | n + 1, places => if places.isEmpty then [] else times step n (step places)

/-- Adds to `seen` all that at most `rounds` steps from `front` reach. -/
def closure (step : List Nat → List Nat) : Nat → List Nat → List Nat → List Nat
  | 0, seen, _ => seen
  | rounds + 1, seen, front =>
    let next := (step front).filter fun p => !seen.contains p
    if next.isEmpty then seen else closure step rounds (seen ++ next) next

/-- The places where matches that start at `places` end. -/
def ends (text : Array Char) : Regex → List Nat → List Nat
  | .empty, places => places
  | .character c, places =>
    places.filterMap fun p => if text[p]?.any c.contains then some (p + 1) else none
  | .anchor a, places =>
    places.filter fun p => a.holds (if p = 0 then none else text[p - 1]?) text[p]?
  | .sequence r s, places => s.ends text (r.ends text places)
  | .alternative r s, places => insertNew (r.ends text places) (s.ends text places)
  | .repetition r least most, places =>
    let start := times (r.ends text) least places
    let rounds := match most with
      | none => text.size + 1
      | some most => min (most - least) (text.size + 1)
    closure (r.ends text) rounds start start

def isMatch (r : Regex) (text : String) : Bool :=
  let text := text.toList.toArray
  !(r.ends text (List.range (text.size + 1))).isEmpty

end Regex

end DocStore
