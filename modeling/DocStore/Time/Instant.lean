import DocStore.Time.Calendar
/-!
Points in time in milliseconds since 1970: their text, and reading them from internet timestamps.
-/
namespace DocStore.Instant

def millisPerDay : Int := 86400000

def padded (width n : Nat) : String :=
  let digits := Nat.toDigits 10 n
  String.ofList (List.replicate (width - digits.length) '0' ++ digits)

def yearText (year : Int) : String :=
  (if year < 0 then "-" else "") ++ padded 4 year.natAbs

/-- Thousandths without the zeros at their end, but with one digit at least. -/
def fractionText (millis : Nat) : String :=
  let digits := (padded 3 millis).toList
  match (digits.reverse.dropWhile (· == '0')).reverse with
  | [] => "0"
  | kept => String.ofList kept

/-- Date, time of day and offset; years of more than four digits leave the number as it is. -/
def text (millis : Int) : String :=
  let date := CalendarDate.ofDays (millis.fdiv millisPerDay)
  if date.year < -9999 ∨ 9999 < date.year then toString millis
  else
    let rest := (millis.fmod millisPerDay).toNat
    let seconds := rest / 1000
    yearText date.year ++ "-" ++ padded 2 date.month ++ "-" ++ padded 2 date.day ++ " " ++
      toString (seconds / 3600) ++ ":" ++ padded 2 (seconds / 60 % 60) ++ ":" ++
      padded 2 (seconds % 60) ++ "." ++ fractionText (rest % 1000) ++ " +00:00:00"

/-- The internet form with thousandths, for the years of four digits. -/
def timestamp (millis : Nat) : String :=
  let date := CalendarDate.ofDays ((millis : Int).fdiv millisPerDay)
  let rest := millis % 86400000
  let seconds := rest / 1000
  yearText date.year ++ "-" ++ padded 2 date.month ++ "-" ++ padded 2 date.day ++ "T" ++
    padded 2 (seconds / 3600) ++ ":" ++ padded 2 (seconds / 60 % 60) ++ ":" ++
    padded 2 (seconds % 60) ++ "." ++ padded 3 (rest % 1000) ++ "Z"

/-- Exactly `count` digits. -/
def digits? (count : Nat) (cs : List Char) : Option (Nat × List Char) :=
  let head := cs.take count
  if head.length = count ∧ head.all Char.isDigit then
    some (head.foldl (fun n c => 10 * n + (c.toNat - '0'.toNat)) 0, cs.drop count)
  else none

def exactly? (c : Char) : List Char → Option (List Char)
  | d :: rest => if d = c then some rest else none
  | [] => none

/-- A fraction of a second in nanoseconds; digits beyond the ninth are passed over. -/
def fraction? (cs : List Char) : Option (Nat × List Char) :=
  match cs with
  | '.' :: rest =>
    let digits := rest.takeWhile Char.isDigit
    if digits.isEmpty then none
    else
      let kept := digits.take 9
      let value := kept.foldl (fun n c => 10 * n + (c.toNat - '0'.toNat)) 0
      some (value * Nat.pow 10 (9 - kept.length), rest.dropWhile Char.isDigit)
  | _ => some (0, cs)

/-- Minutes east of UTC. -/
def offset? (cs : List Char) : Option Int := do
  match cs with
  | ['Z'] => some 0
  | ['z'] => some 0
  | sign :: rest =>
    guard (sign = '+' ∨ sign = '-')
    let (hour, rest) ← digits? 2 rest
    let rest ← exactly? ':' rest
    let (minute, rest) ← digits? 2 rest
    guard (hour ≤ 23 ∧ minute ≤ 59 ∧ rest.isEmpty)
    let minutes : Int := (60 * hour + minute : Nat)
    return if sign = '-' then -minutes else minutes
  | [] => none

/-- Reads `1970-01-01T00:00:00.5+01:00` with any ASCII character between date and time. The
second may be 60 at the very end of a month in UTC. -/
def ofTimestamp? (s : String) : Option Int := do
  let (year, rest) ← digits? 4 s.toList
  let rest ← exactly? '-' rest
  let (month, rest) ← digits? 2 rest
  let rest ← exactly? '-' rest
  let (day, rest) ← digits? 2 rest
  let rest ← match rest with
    | c :: rest => if c.toNat < 128 then some rest else none
    | [] => none
  let (hour, rest) ← digits? 2 rest
  let rest ← exactly? ':' rest
  let (minute, rest) ← digits? 2 rest
  let rest ← exactly? ':' rest
  let (second, rest) ← digits? 2 rest
  let (nanos, rest) ← fraction? rest
  let offset ← offset? rest
  guard (1 ≤ month ∧ month ≤ 12 ∧ 1 ≤ day ∧ day ≤ CalendarDate.daysInMonth year month)
  guard (hour ≤ 23 ∧ minute ≤ 59 ∧ second ≤ 60)
  let leap := second = 60
  let (second, nanos) := if leap then (59, 999999999) else (second, nanos)
  let days := CalendarDate.toDays ⟨year, month, day⟩
  let minutes : Int := days * 1440 + (60 * hour + minute : Nat) - offset
  if leap then
    let utc := CalendarDate.ofDays (minutes.fdiv 1440)
    guard (minutes.fmod 1440 = 1439 ∧ utc.day = CalendarDate.daysInMonth utc.year utc.month)
  let totalNanos : Int := (minutes * 60 + (second : Nat)) * 1000000000 + (nanos : Nat)
  return totalNanos.tdiv 1000000

end DocStore.Instant
