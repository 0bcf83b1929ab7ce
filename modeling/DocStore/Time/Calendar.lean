/-!
Days, dates and times of the proleptic Gregorian calendar in UTC, counted from the first of
January 1970.
-/
namespace DocStore

structure CalendarDate where
  year : Int
  month : Nat
  day : Nat
deriving DecidableEq, Repr

namespace CalendarDate

def isLeapYear (year : Int) : Bool :=
  year % 4 == 0 && (year % 100 != 0 || year % 400 == 0)

def daysInMonth (year : Int) (month : Nat) : Nat :=
  if month = 2 then if isLeapYear year then 29 else 28
  else if month = 4 ∨ month = 6 ∨ month = 9 ∨ month = 11 then 30
  else 31

/-- Days before the date, from the first of March of year zero in eras of 400 years. Years are
counted from March, so that a leap day is the last day of its year. -/
def toDays (date : CalendarDate) : Int :=
  let year := if date.month ≤ 2 then date.year - 1 else date.year
  let month := if date.month ≤ 2 then date.month + 9 else date.month - 3
  let era := year.fdiv 400
  let yearOfEra := year - era * 400
  let dayOfYear : Int := ((153 * month + 2) / 5 + date.day - 1 : Nat)
  let dayOfEra := yearOfEra * 365 + yearOfEra.fdiv 4 - yearOfEra.fdiv 100 + dayOfYear
  era * 146097 + dayOfEra - 719468

def ofDays (days : Int) : CalendarDate :=
  let shifted := days + 719468
  let era := shifted.fdiv 146097
  let dayOfEra := (shifted - era * 146097).toNat
  let yearOfEra := (dayOfEra - dayOfEra / 1460 + dayOfEra / 36524 - dayOfEra / 146096) / 365
  let dayOfYear := dayOfEra - (365 * yearOfEra + yearOfEra / 4 - yearOfEra / 100)
  let shiftedMonth := (5 * dayOfYear + 2) / 153
  let day := dayOfYear - (153 * shiftedMonth + 2) / 5 + 1
  let month := if shiftedMonth < 10 then shiftedMonth + 3 else shiftedMonth - 9
  let year : Int := yearOfEra + era * 400
  { year := if month ≤ 2 then year + 1 else year, month, day }

end CalendarDate

end DocStore
