/-!
Binary floating-point numbers of 64 bits, kept as their words. Every finite number is a whole
multiple of the smallest positive one, 2^-1074, so its value is the natural number `units` with
a sign, and all arithmetic is exact arithmetic on naturals followed by one rounding: the nearest
number, ties to the even word.
-/
namespace DocStore

structure Binary64 where
  bits : UInt64
deriving DecidableEq, Repr, Inhabited

namespace Binary64

def word (x : Binary64) : Nat := x.bits.toNat

def signBit : Nat := 0x8000000000000000

/-- The least significand of full width. -/
def fullSignificand : Nat := 0x10000000000000

/-- The word without its sign bit. -/
def magnitude (x : Binary64) : Nat := x.word % signBit

def negative (x : Binary64) : Bool := decide (signBit ≤ x.word)

def ofMagnitude (negative : Bool) (magnitude : Nat) : Binary64 :=
  ⟨UInt64.ofNat (magnitude + if negative then signBit else 0)⟩

def infinityMagnitude : Nat := 2047 * fullSignificand

def zero : Binary64 := ⟨0⟩

def infinity (negative : Bool) : Binary64 := ofMagnitude negative infinityMagnitude

/-- The quiet NaN without a payload. -/
def nan (negative : Bool) : Binary64 := ofMagnitude negative (infinityMagnitude + fullSignificand / 2)

def isNaN (x : Binary64) : Bool := decide (infinityMagnitude < x.magnitude)

def isInfinite (x : Binary64) : Bool := decide (x.magnitude = infinityMagnitude)

def isFinite (x : Binary64) : Bool := decide (x.magnitude < infinityMagnitude)

def isZero (x : Binary64) : Bool := decide (x.magnitude = 0)

/-- Position of the last significand bit, counted from 2^-1074. -/
def scale (x : Binary64) : Nat := x.magnitude / fullSignificand - 1

def significand (x : Binary64) : Nat := x.magnitude - x.scale * fullSignificand

/-- The absolute value of a finite number, in multiples of 2^-1074. -/
def units (x : Binary64) : Nat := x.significand <<< x.scale

/-- Multiples of 2^-1074 in one. -/
def unit : Nat := 1 <<< 1074

/-- The quotient rounded to the nearest natural, a half to the even one. -/
def roundHalfEven (num den : Nat) : Nat :=
  let q := num / den
  let r := num % den
  if den < 2 * r ∨ (2 * r = den ∧ q % 2 = 1) then q + 1 else q

/-- The magnitude nearest to `num / den` multiples of 2^-1074. A significand that rounds up to
the next power of two carries into the exponent by itself. -/
def roundUnits (num den : Nat) : Nat :=
  let scale := Nat.log2 (num / den) - 52
  min infinityMagnitude (scale * fullSignificand + roundHalfEven num (den <<< scale))

/-- The number nearest to `num / den`, with a sign. -/
def ofRatio (negative : Bool) (num den : Nat) : Binary64 :=
  ofMagnitude negative (roundUnits (num * unit) den)

def ofInt (n : Int) : Binary64 := ofRatio (decide (n < 0)) n.natAbs 1

/-- The number nearest to `digits * 10 ^ exponent`. Exponents beyond the reach of any digits
that are given are answered without computing the power. -/
def ofDecimal (negative : Bool) (digits : Nat) (exponent : Int) : Binary64 :=
  let places : Int := Nat.log2 digits / 3 + 1 + exponent
  if digits = 0 then ofMagnitude negative 0
  else if exponent > 400 then infinity negative
  else if places < -400 then ofMagnitude negative 0
  else if 0 ≤ exponent then ofRatio negative (digits * Nat.pow 10 exponent.toNat) 1
  else ofRatio negative digits (Nat.pow 10 (-exponent).toNat)

/-- Numeric equality: a NaN equals nothing, the two zeros are equal. -/
def same (x y : Binary64) : Bool :=
  !x.isNaN && !y.isNaN && (x == y || (x.isZero && y.isZero))

/-- Position in the total order of all words: negative NaNs, the numbers with -0 just below 0,
positive NaNs. -/
def orderKey (x : Binary64) : Int :=
  if x.negative then -(x.magnitude : Int) - 1 else x.magnitude

def isNegative (x : Binary64) : Bool := x.negative && !x.isNaN && !x.isZero

def quiet (x : Binary64) : Binary64 := ⟨x.bits ||| 0x0008000000000000⟩

def signedUnits (x : Binary64) : Int := if x.negative then -(x.units : Int) else x.units

/-- The rounded sum. A NaN operand is passed on, the first one first; opposite infinities give the
negative NaN; an exact zero is negative only when both operands are. -/
def add (x y : Binary64) : Binary64 :=
  if x.isNaN then x.quiet
  else if y.isNaN then y.quiet
  else if x.isInfinite then
    if y.isInfinite && x.negative != y.negative then nan true else x
  else if y.isInfinite then y
  else
    let sum := x.signedUnits + y.signedUnits
    if sum = 0 then ofMagnitude (x.negative && y.negative) 0
    else ofMagnitude (decide (sum < 0)) (roundUnits sum.natAbs 1)

/-- The rounded product of two finite numbers. -/
def mulFinite (x y : Binary64) : Binary64 :=
  ofRatio (x.negative != y.negative) (x.units * y.units) (unit * unit)

/-- The rounded quotient of two finite numbers, the divisor not zero. -/
def divFinite (x y : Binary64) : Binary64 :=
  ofRatio (x.negative != y.negative) x.units y.units

theorem orderKey_injective {x y : Binary64} (h : x.orderKey = y.orderKey) : x = y := by
  have hx := x.bits.toNat_lt
  have hy := y.bits.toNat_lt
  unfold orderKey negative magnitude word signBit at h
  have : x.bits.toNat = y.bits.toNat := by
    simp only [decide_eq_true_eq] at h
    split at h <;> split at h <;> omega
  cases x; cases y
  simpa [UInt64.toNat_inj] using this

end Binary64

end DocStore
