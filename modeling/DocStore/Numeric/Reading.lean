import DocStore.Numeric.Binary64
/-!
Numbers read from text. Whole numbers are an optional sign and ASCII digits, and a refusal says
why. Decimal numbers are digits with at most one point, an optional exponent, or the names of the
infinities and of NaN in any case.
-/
namespace DocStore

inductive IntegerError where
  | empty
  | invalidDigit
  | tooLarge
  | tooSmall
deriving DecidableEq, Repr

namespace IntegerError

def message : IntegerError → String
  | .empty => "cannot parse integer from empty string"
  | .invalidDigit => "invalid digit found in string"
  | .tooLarge => "number too large to fit in target type"
  | .tooSmall => "number too small to fit in target type"

end IntegerError

namespace Reading

def digitValue (c : Char) : Nat := c.toNat - '0'.toNat

def natOfDigits (cs : List Char) : Nat := cs.foldl (fun n c => 10 * n + digitValue c) 0

def digits? (cs : List Char) : Option Nat :=
  if !cs.isEmpty && cs.all Char.isDigit then some (natOfDigits cs) else none

/-- Reads digits up to the first fault: a character that is no digit, or a value above `bound`. -/
def boundedDigits (bound : Nat) (fault : IntegerError) (value : Nat) :
    List Char → Except IntegerError Nat
  | [] => .ok value
  | c :: rest =>
    if c.isDigit then
      let next := 10 * value + digitValue c
      if bound < next then .error fault else boundedDigits bound fault next rest
    else .error .invalidDigit

/-- A whole number from `-least` to `greatest`. A minus sign belongs to the number only where
negative numbers are allowed. -/
def integer? (least greatest : Nat) (cs : List Char) : Except IntegerError Int :=
  match cs with
  | [] => .error .empty
  | ['+'] => .error .invalidDigit
  | ['-'] => .error .invalidDigit
  | '+' :: rest => (boundedDigits greatest .tooLarge 0 rest).map Int.ofNat
  | '-' :: rest =>
    if least = 0 then .error .invalidDigit
    else (boundedDigits least .tooSmall 0 rest).map fun n => -(n : Int)
  | _ => (boundedDigits greatest .tooLarge 0 cs).map Int.ofNat

def int32? (s : String) : Except IntegerError Int32 :=
  (integer? 0x80000000 0x7fffffff s.toList).map Int32.ofInt

def int64? (s : String) : Except IntegerError Int64 :=
  (integer? 0x8000000000000000 0x7fffffffffffffff s.toList).map Int64.ofInt

def uint64? (s : String) : Except IntegerError UInt64 :=
  (integer? 0 0xffffffffffffffff s.toList).map fun n => UInt64.ofNat n.toNat

/-- Digits with at most one point and at least one digit: their value and the places after the
point, with what follows. -/
def mantissa? (cs : List Char) : Option (Nat × Nat × List Char) :=
  let whole := cs.takeWhile Char.isDigit
  let rest := cs.dropWhile Char.isDigit
  let (fraction, rest) := match rest with
    | '.' :: tail => (tail.takeWhile Char.isDigit, tail.dropWhile Char.isDigit)
    | _ => ([], rest)
  if whole.isEmpty && fraction.isEmpty then none
  else some (natOfDigits (whole ++ fraction), fraction.length, rest)

def exponent? : List Char → Option Int
  | [] => some 0
  | c :: rest =>
    if c = 'e' ∨ c = 'E' then
      match rest with
      | '+' :: tail => (digits? tail).map Int.ofNat
      | '-' :: tail => (digits? tail).map fun n => -(n : Int)
      | tail => (digits? tail).map Int.ofNat
    else none

def unsigned? (negative : Bool) (cs : List Char) : Option Binary64 :=
  let name := String.ofList (cs.map Char.toLower)
  if name = "nan" then some (.nan negative)
  else if name = "inf" ∨ name = "infinity" then some (.infinity negative)
  else do
    let (digits, places, rest) ← mantissa? cs
    let exponent ← exponent? rest
    return .ofDecimal negative digits (exponent - places)

def binary64? (s : String) : Option Binary64 :=
  match s.toList with
  | '-' :: rest => unsigned? true rest
  | '+' :: rest => unsigned? false rest
  | cs => unsigned? false cs

end Reading

end DocStore
