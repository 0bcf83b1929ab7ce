import DocStore.Numeric.Reading
/-!
Decimal numbers of 128 bits: a sign with a coefficient below 10^34 and an exponent of ten from
-6176 to 6111, an infinity, or a NaN. Numbers of equal value with different exponents are
different data, and the canonical text tells them apart.
-/
namespace DocStore

inductive DecimalMagnitude where
  | finite (coefficient : Nat) (exponent : Int)
  | infinity
  | nan (signalling : Bool)
deriving DecidableEq, Repr, Inhabited

structure Decimal128 where
  negative : Bool
  magnitude : DecimalMagnitude
deriving DecidableEq, Repr, Inhabited

namespace Decimal128

def maxDigits : Nat := 34
def minExponent : Int := -6176
def maxExponent : Int := 6111

def signed (b : Bool) (text : String) : String := if b then "-" ++ text else text

/-- Plain text while the point is inside the coefficient or at most six zeros before it,
else one digit, a fraction and an exponent with its sign. -/
def finiteText (coefficient : Nat) (exponent : Int) : String :=
  let digits := Nat.toDigits 10 coefficient
  let leading := exponent + digits.length - 1
  if exponent ≤ 0 ∧ -6 ≤ leading then
    let places := exponent.natAbs
    if places = 0 then String.ofList digits
    else if digits.length ≤ places then
      String.ofList (['0', '.'] ++ List.replicate (places - digits.length) '0' ++ digits)
    else
      let whole := digits.length - places
      String.ofList (digits.take whole ++ '.' :: digits.drop whole)
  else
    let fraction := match digits.drop 1 with
      | [] => []
      | rest => '.' :: rest
    let sign := if leading < 0 then '-' else '+'
    String.ofList (digits.take 1 ++ fraction ++ 'E' :: sign :: Nat.toDigits 10 leading.natAbs)

/-- The canonical text. A NaN has neither a sign nor a mark for signalling. -/
def text (x : Decimal128) : String :=
  match x.magnitude with
  | .nan _ => "NaN"
  | .infinity => signed x.negative "Infinity"
  | .finite coefficient exponent => signed x.negative (finiteText coefficient exponent)

/-- Drops the last digits beyond `precision`, which have to be zeros. -/
def trimTo (precision : Nat) (digits : List Char) : Option (List Char) :=
  if (digits.drop precision).all (· == '0') then some (digits.take precision) else none

def fitDigits (digits : List Char) (exponent : Int) : Option (List Char × Int) :=
  if maxDigits < digits.length then do
    let kept ← trimTo maxDigits digits
    return (kept, exponent + (digits.length - kept.length : Nat))
  else some (digits, exponent)

def fitLow (digits : List Char) (exponent : Int) : Option (List Char × Int) :=
  if exponent < minExponent then
    if digits = ['0'] then some (digits, minExponent)
    else
      let excess := (minExponent - exponent).toNat
      if digits.length < excess then none
      else do
        let kept ← trimTo (digits.length - excess) digits
        return (kept, minExponent)
  else some (digits, exponent)

def fitHigh (digits : List Char) (exponent : Int) : Option (List Char × Int) :=
  if maxExponent < exponent then
    if digits = ['0'] then some (digits, maxExponent)
    else
      let excess := (exponent - maxExponent).toNat
      if maxDigits < digits.length + excess then none
      else some (digits ++ List.replicate excess '0', maxExponent)
  else some (digits, exponent)

def coefficient? (digits : List Char) : Option Nat :=
  match digits with
  | '+' :: rest => Reading.digits? rest
  | _ => Reading.digits? digits

def finite? (negative : Bool) (cs : List Char) : Option Decimal128 := do
  let (body, exponent) ← match cs.span (· != 'e') with
    | (body, []) => some (body, 0)
    | (body, _ :: power) =>
      (Reading.integer? 32768 32767 power).toOption.map (body, ·)
  let (digits, exponent) ← match body.span (· != '.') with
    | (_, []) => some (body, exponent)
    | (whole, _ :: fraction) =>
      let exponent := exponent - (String.ofList fraction).utf8ByteSize
      if exponent < -32768 then none else some (whole ++ fraction, exponent)
  let digits := match digits.dropWhile (· == '0') with
    | [] => ['0']
    | rest => rest
  let (digits, exponent) ← fitDigits digits exponent
  let (digits, exponent) ← fitLow digits exponent
  let (digits, exponent) ← fitHigh digits exponent
  let coefficient ← coefficient? digits
  return { negative, magnitude := .finite coefficient exponent }

def unsigned? (negative : Bool) (cs : List Char) : Option Decimal128 :=
  let cs := cs.map Char.toLower
  match String.ofList cs with
  | "nan" => some { negative, magnitude := .nan false }
  | "snan" => some { negative, magnitude := .nan true }
  | "infinity" => some { negative, magnitude := .infinity }
  | "inf" => some { negative, magnitude := .infinity }
  | _ => finite? negative cs

/-- Reads a decimal number in plain or exponent form. Digits beyond the coefficient's room are
dropped only if they are zeros. -/
def ofText? (s : String) : Option Decimal128 :=
  match s.toList with
  | '-' :: rest => unsigned? true rest
  | '+' :: rest => unsigned? false rest
  | cs => unsigned? false cs

/-- The nearest binary number. -/
def toBinary64 (x : Decimal128) : Binary64 :=
  match x.magnitude with
  | .nan _ => .nan false
  | .infinity => .infinity x.negative
  | .finite coefficient exponent => .ofDecimal x.negative coefficient exponent

end Decimal128

end DocStore
