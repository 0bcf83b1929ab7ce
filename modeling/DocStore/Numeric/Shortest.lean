import DocStore.Numeric.Binary64
/-!
Shortest decimal text of a finite number: the fewest significant digits that are nearer to the
number than to any other, and of those the nearest. The digits come from exact arithmetic; how
they are laid out is a record.
-/
namespace DocStore

/-- Significant digits and the place of the point: the value is `0.d₁d₂… * 10 ^ point`. -/
structure DecimalDigits where
  digits : List Char
  point : Int
deriving DecidableEq, Repr

inductive Tie where
  | up
  | even
deriving DecidableEq, Repr

namespace Binary64

/-- Four times the units of a finite number, and of the ends of the interval that rounds to it. -/
structure Interval where
  low : Nat
  value : Nat
  high : Nat
  closed : Bool

def interval (x : Binary64) : Interval :=
  let quarter := 1 <<< x.scale
  let value := 4 * x.units
  let below := if x.significand = fullSignificand ∧ 0 < x.scale then quarter else 2 * quarter
  { low := value - below, value, high := value + 2 * quarter, closed := x.significand % 2 == 0 }

def Interval.contains (i : Interval) (point : Nat) : Bool :=
  if i.closed then decide (i.low ≤ point ∧ point ≤ i.high)
  else decide (i.low < point ∧ point < i.high)

/-- The point of the grid of `num / den` that is chosen for the interval: of the two neighbours of
the value the one that lies inside, of two the nearer. Coordinates are scaled by `den`. -/
def Interval.choose (i : Interval) (tie : Tie) (num den : Nat) : Option Nat :=
  let value := i.value * den
  let scaled : Interval := { i with low := i.low * den, value, high := i.high * den }
  let c := value / num
  let down := c * num
  let up := down + num
  match scaled.contains down && decide (0 < c), scaled.contains up with
  | true, true =>
    let below := value - down
    let above := up - value
    if below < above then some c
    else if above < below then some (c + 1)
    else if tie = .even ∧ c % 2 = 0 then some c else some (c + 1)
  | true, false => some c
  | false, true => some (c + 1)
  | false, false => none

/-- Searches grids of `precision`, `precision + 1`, … digits; seventeen always suffice. -/
def searchDigits (i : Interval) (tie : Tie) (top : Int) : Nat → Nat → DecimalDigits
  | 0, precision => searchGrid precision
  | fuel + 1, precision =>
    match i.choose tie (gridNum precision) (gridDen precision) with
    | some c => normalise c precision
    | none => searchDigits i tie top fuel (precision + 1)
where
  gridNum (precision : Nat) : Nat := 4 * unit * Nat.pow 10 (top - precision).toNat
  gridDen (precision : Nat) : Nat := Nat.pow 10 ((precision : Int) - top).toNat
  normalise (c precision : Nat) : DecimalDigits :=
    let text := Nat.toDigits 10 c
    let point := top - precision + text.length
    let digits := (text.reverse.dropWhile (· == '0')).reverse
    { digits, point }
  searchGrid (precision : Nat) : DecimalDigits :=
    normalise (i.value * gridDen precision / gridNum precision) precision

/-- The decimal place above the leading digit of a positive number. -/
def topPlace (x : Binary64) : Int :=
  if unit ≤ x.units then (Nat.toDigits 10 (x.units / unit)).length
  else
    let inverse := (Nat.toDigits 10 (unit / x.units)).length
    -- here 10 ^ (inverse - 1) ≤ 1 / value < 10 ^ inverse
    if unit = Nat.pow 10 (inverse - 1) * x.units then -(inverse : Int) + 2 else -(inverse : Int) + 1

def shortest (tie : Tie) (x : Binary64) : DecimalDigits :=
  if x.isZero then { digits := ['0'], point := 1 }
  else searchDigits x.interval tie x.topPlace 20 1

end Binary64

/-- How digits are written out. -/
structure DecimalLayout where
  /-- Least and greatest exponent of ten of the leading digit that is written with a point. -/
  positional : Option (Int × Int)
  /-- Whether a whole number written with a point ends in a zero after it. -/
  pointZero : Bool
  tie : Tie

namespace DecimalLayout

def positionalText (layout : DecimalLayout) (d : DecimalDigits) : List Char :=
  let n : Int := d.digits.length
  if d.point ≤ 0 then
    ['0', '.'] ++ List.replicate (-d.point).toNat '0' ++ d.digits
  else if n ≤ d.point then
    d.digits ++ List.replicate (d.point - n).toNat '0' ++ (if layout.pointZero then ['.', '0'] else [])
  else
    d.digits.take d.point.toNat ++ '.' :: d.digits.drop d.point.toNat

def exponentText (d : DecimalDigits) : List Char :=
  let exponent := d.point - 1
  let fraction := match d.digits.drop 1 with
    | [] => []
    | rest => '.' :: rest
  d.digits.take 1 ++ fraction ++ 'e' :: (if exponent < 0 then '-' else '+') ::
    Nat.toDigits 10 exponent.natAbs

/-- Text of a finite number. -/
def render (layout : DecimalLayout) (x : Binary64) : String :=
  let d := x.shortest layout.tie
  let text := match layout.positional with
    | none => layout.positionalText d
    | some (least, greatest) =>
      if least ≤ d.point - 1 ∧ d.point - 1 ≤ greatest then layout.positionalText d
      else exponentText d
  (if x.negative then "-" else "") ++ String.ofList text

/-- Text of documents: never an exponent, no point in whole numbers. -/
def plain : DecimalLayout :=
  { positional := none, pointZero := false, tie := .up }

/-- Numbers of JSON text: a point from 0.00001 up to sixteen digits, else an exponent with its
sign. -/
def json : DecimalLayout :=
  { positional := some (-5, 15), pointZero := true, tie := .even }

end DecimalLayout

end DocStore
