/-!
Hexadecimal digits. Bytes are written with two lower-case digits; reading takes either case.
-/
namespace DocStore.Hex

def digit (n : Nat) : Char :=
  if n < 10 then Char.ofNat ('0'.toNat + n) else Char.ofNat ('a'.toNat + (n - 10))

def value? (c : Char) : Option Nat :=
  let n := c.toNat
  if '0'.toNat ≤ n ∧ n ≤ '9'.toNat then some (n - '0'.toNat)
  else if 'a'.toNat ≤ n ∧ n ≤ 'f'.toNat then some (n - 'a'.toNat + 10)
  else if 'A'.toNat ≤ n ∧ n ≤ 'F'.toNat then some (n - 'A'.toNat + 10)
  else none

/-- The last `width` digits of a number. -/
def fixed : Nat → Nat → List Char
  | 0, _ => []
  | width + 1, n => fixed width (n / 16) ++ [digit (n % 16)]

def ofBytes (bytes : List UInt8) : String :=
  String.ofList (bytes.flatMap fun b => fixed 2 b.toNat)

/-- The number that digits stand for. -/
def number? : List Char → Option Nat :=
  List.foldl (fun acc c => do return 16 * (← acc) + (← value? c)) (some 0)

def pairs? : List Char → Option (List UInt8)
  | [] => some []
  | high :: low :: rest => do
    let byte := 16 * (← value? high) + (← value? low)
    return UInt8.ofNat byte :: (← pairs? rest)
  | [_] => none

def toBytes? (s : String) : Option (List UInt8) := pairs? s.toList

end DocStore.Hex
