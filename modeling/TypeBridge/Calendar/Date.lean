/-!
Dates of the proleptic Gregorian calendar with a year zero, and their numbering by days: day zero is
the first of January 1970. The calendar ends at fixed years on both sides.
-/
namespace TypeBridge

def isLeapYear (year : Int) : Bool := year % 4 == 0 && (year % 100 != 0 || year % 400 == 0)

def monthLengths (leap : Bool) : List Nat :=
  [31, if leap then 29 else 28, 31, 30, 31, 30, 31, 31, 30, 31, 30, 31]

def daysInMonth (year : Int) (month : Nat) : Nat :=
  (monthLengths (isLeapYear year)).getD (month - 1) 0

structure Date where
  year : Int
  month : Nat
  day : Nat
  year_mem : -262143 ≤ year ∧ year ≤ 262142
  month_mem : 1 ≤ month ∧ month ≤ 12
  day_mem : 1 ≤ day ∧ day ≤ daysInMonth year month
  deriving DecidableEq

namespace Date

def make? (year : Int) (month day : Nat) : Option Date :=
  if h : (-262143 ≤ year ∧ year ≤ 262142) ∧ (1 ≤ month ∧ month ≤ 12) ∧
      (1 ≤ day ∧ day ≤ daysInMonth year month) then
    some ⟨year, month, day, h.1, h.2.1, h.2.2⟩
  else none

def daysBeforeYear (year : Int) : Int :=
  let elapsed := year - 1
  365 * elapsed + elapsed / 4 - elapsed / 100 + elapsed / 400

def daysBeforeMonth (year : Int) (month : Nat) : Nat :=
  ((monthLengths (isLeapYear year)).take (month - 1)).foldr (· + ·) 0

def epochOffset : Int := 719162

def epochDay (date : Date) : Int :=
  daysBeforeYear date.year + daysBeforeMonth date.year date.month + (date.day - 1 : Nat) - epochOffset

/-- The year that holds a day, and the day within it; days count from the first of January of year
one. Cycles of 400 years are equal, and in each the centuries, the groups of four years and the years
are counted off in turn, where the last century and the last year may be a day longer. -/
def yearOfDay (days : Int) : Int × Nat :=
  let cycle := days / 146097
  let inCycle := (days % 146097).toNat
  let century := min (inCycle / 36524) 3
  let inCentury := inCycle - century * 36524
  let group := inCentury / 1461
  let inGroup := inCentury % 1461
  let year := min (inGroup / 365) 3
  (400 * cycle + 100 * century + 4 * group + year + 1, inGroup - year * 365)

/-- The month that holds a day of the year, and the day within it, counted from zero. -/
def monthOfDay : List Nat → Nat → Nat → Nat × Nat
  | [], month, day => (month, day)
  | length :: rest, month, day =>
    if day < length then (month, day) else monthOfDay rest (month + 1) (day - length)

def ofEpochDay? (days : Int) : Option Date :=
  let (year, inYear) := yearOfDay (days + epochOffset)
  let (month, inMonth) := monthOfDay (monthLengths (isLeapYear year)) 1 inYear
  make? year month (inMonth + 1)

/-- The same date a year earlier; the 29th of February becomes the 28th. -/
def yearEarlier? (date : Date) : Option Date :=
  make? (date.year - 1) date.month (min date.day (daysInMonth (date.year - 1) date.month))

def before (left right : Date) : Prop :=
  left.year < right.year ∨ (left.year = right.year ∧
    (left.month < right.month ∨ (left.month = right.month ∧ left.day < right.day)))

end Date

end TypeBridge
