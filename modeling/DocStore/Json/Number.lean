import DocStore.Json.Basic
import DocStore.Numeric.Reading
/-!
Numbers of JSON text. Whole numbers that fit in 64 bits are kept; minus zero and all others become
binary numbers. Their digits are gathered into a 64-bit significand, digits that no longer fit are
dropped, and one multiplication or division by a power of ten gives the number, so that it may miss
the nearest one by a little. A number too large for that is none at all.
-/
namespace DocStore.Json

/-- A number as it is written, in digits. -/
structure NumberText where
  negative : Bool
  whole : List Char
  fraction : Option (List Char)
  /-- Whether the exponent is negative, and its digits. -/
  exponent : Option (Bool × List Char)

namespace NumberText

def maxSignificand : Nat := 0xffffffffffffffff

/-- Takes in digits as long as they fit, and gives those that are left. -/
def gather (significand : Nat) : List Char → Nat × List Char
  | [] => (significand, [])
  | c :: rest =>
    let next := 10 * significand + Reading.digitValue c
    if next ≤ maxSignificand then gather next rest else (significand, c :: rest)

def powerOfTen (n : Nat) : Binary64 := .ofDecimal false 1 n

/-- Scales by a power of ten; far below one in steps that are in range. -/
def scale (x : Binary64) (exponent : Int) : Nat → Json
  | 0 => .double x
  | steps + 1 =>
    if exponent.natAbs ≤ 308 then
      if 0 ≤ exponent then
        let y := x.mulFinite (powerOfTen exponent.natAbs)
        if y.isFinite then .double y else .overflow
      else .double (x.divFinite (powerOfTen exponent.natAbs))
    else if x.isZero then .double x
    else if 0 ≤ exponent then .overflow
    else scale (x.divFinite (powerOfTen 308)) (exponent + 308) steps

def signed (negative : Bool) : Json → Json
  | .double x => .double (if negative then ⟨x.bits ^^^ 0x8000000000000000⟩ else x)
  | other => other

/-- The number of a significand and an exponent that is not written out. -/
def assemble (t : NumberText) (significand : Nat) (exponent : Int) : Json :=
  signed t.negative (scale (.ofInt significand) exponent 8)

/-- The number with the exponent that is written out taken into account. -/
def withExponent (t : NumberText) (significand : Nat) (exponent : Int) : Json :=
  match t.exponent with
  | none => t.assemble significand exponent
  | some (negative, digits) =>
    let written := Reading.natOfDigits digits
    if written ≤ 0x7fffffff then
      t.assemble significand (if negative then exponent - written else exponent + written)
    else if significand ≠ 0 ∧ !negative then .overflow
    else signed t.negative (.double .zero)

def integer (t : NumberText) (significand : Nat) : Json :=
  if !t.negative then .ofNat significand
  else if 0 < significand ∧ significand ≤ 0x8000000000000000 then .negative (Int64.ofInt (-significand))
  else t.assemble significand 0

def value (t : NumberText) : Json :=
  let (significand, left) := gather 0 t.whole
  match t.fraction with
  | some digits =>
    let (significand, unread) := gather significand digits
    t.withExponent significand (left.length - (digits.length - unread.length : Nat))
  | none =>
    if left.isEmpty && t.exponent.isNone then t.integer significand
    else t.withExponent significand left.length

end NumberText

/-- Splits off the digits that come first. -/
def digits (cs : List Char) : List Char × List Char := cs.span Char.isDigit

def fraction (cs : List Char) : Option (Option (List Char) × List Char) :=
  match cs with
  | '.' :: rest =>
    match digits rest with
    | ([], _) => none
    | (ds, rest) => some (some ds, rest)
  | cs => some (none, cs)

def exponent (cs : List Char) : Option (Option (Bool × List Char) × List Char) :=
  let unsigned (negative : Bool) (cs : List Char) : Option (Option (Bool × List Char) × List Char) :=
    match digits cs with
    | ([], _) => none
    | (ds, rest) => some (some (negative, ds), rest)
  let afterMark (cs : List Char) :=
    match cs with
    | '+' :: rest => unsigned false rest
    | '-' :: rest => unsigned true rest
    | cs => unsigned false cs
  match cs with
  | 'e' :: rest | 'E' :: rest => afterMark rest
  | cs => some (none, cs)

/-- Reads a number. A whole part of several digits does not start with a zero. -/
def number (cs : List Char) : Option (Json × List Char) := do
  let (minus, cs) := match cs with
    | '-' :: rest => (true, rest)
    | cs => (false, cs)
  let (whole, rest) := digits cs
  match whole with
  | [] => none
  | '0' :: _ :: _ => none
  | whole =>
    let (fraction, rest) ← fraction rest
    let (exponent, rest) ← exponent rest
    return (NumberText.value ⟨minus, whole, fraction, exponent⟩, rest)

end DocStore.Json
