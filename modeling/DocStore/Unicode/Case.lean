import DocStore.Unicode.Property
import DocStore.Unicode.CaseTable
/-!
Letter case. Lower case of text is by character except for two rules: a dotted capital I becomes
two characters, and a capital sigma that ends a word becomes a final sigma. Case folding is by
character; characters with one folding form an orbit.
-/
namespace DocStore.Unicode

def shiftBy (runs : List (Nat × Nat × Nat × Int)) (c : Char) : Char :=
  let n := c.toNat
  match runs.find? fun (first, last, step, _) =>
      decide (first ≤ n ∧ n ≤ last ∧ (n - first) % step = 0) with
  | some (_, _, _, shift) => Char.ofNat ((n : Int) + shift).toNat
  | none => c

def lowerChar (c : Char) : Char :=
  if c.toNat < 128 then c.toLower else shiftBy lowerRuns c

def foldChar (c : Char) : Char :=
  if c.toNat < 128 then c.toLower else shiftBy foldRuns c

/-- Characters that a run takes to `n`. -/
def preimage (n : Nat) (run : Nat × Nat × Nat × Int) : Option Char :=
  let (first, last, step, shift) := run
  let source := ((n : Int) - shift).toNat
  if first ≤ source ∧ source ≤ last ∧ (source - first) % step = 0 then some (Char.ofNat source)
  else none

/-- All characters with the folding of `c`, `c` among them. -/
def foldOrbit (c : Char) : List Char :=
  if c.toNat < 128 then
    if c = 'k' ∨ c = 'K' then ['k', 'K', Char.ofNat 0x212A]
    else if c = 's' ∨ c = 'S' then ['s', 'S', Char.ofNat 0x17F]
    else if c.isAlpha then [c.toLower, c.toUpper]
    else [c]
  else
    let folded := foldChar c
    folded :: foldRuns.filterMap (preimage folded.toNat)

def capitalSigma : Char := Char.ofNat 0x3A3
def finalSigma : Char := Char.ofNat 0x3C2
def dottedCapitalI : Char := Char.ofNat 0x130
def dotAbove : Char := Char.ofNat 0x307

/-- Whether the first character that casing does not pass over is cased. -/
def casedNext (cs : List Char) : Bool :=
  match cs.dropWhile isCaseIgnorable with
  | [] => false
  | c :: _ => isCased c

/-- Lower case of `cs`, where `before` holds the characters already passed, the last one first. -/
def lowerFrom (before : List Char) : List Char → List Char
  | [] => []
  | c :: rest =>
    let lowered :=
      if c = capitalSigma then
        if casedNext before && !casedNext rest then [finalSigma] else [lowerChar c]
      else if c = dottedCapitalI then ['i', dotAbove]
      else [lowerChar c]
    lowered ++ lowerFrom (c :: before) rest

end DocStore.Unicode

namespace DocStore

def lowercase (s : String) : String := String.ofList (Unicode.lowerFrom [] s.toList)

end DocStore
