import TypeBridge.Calendar.Time
import TypeBridge.Text.Numeral

/-!
Dates and times as text. Years from 0 to 9999 have four digits, all others a sign and at least four. The
fraction of a second has three, six or nine digits where a value is shown, and no trailing zero where
it is written for a statement. A leap second shows as second sixty.
-/
namespace TypeBridge

open TypeBridge.Text

def yearText (year : Int) : List Char :=
  if 0 ≤ year ∧ year < 10000 then padZeros 4 (numeral year.toNat)
  else (if year < 0 then '-' else '+') :: padZeros 4 (numeral year.natAbs)

def twoDigits (value : Nat) : List Char := padZeros 2 (numeral value)

def Date.chars (date : Date) : List Char :=
  yearText date.year ++ '-' :: twoDigits date.month ++ '-' :: twoDigits date.day

namespace TimeOfDay

def hourOfDay (time : TimeOfDay) : Nat := time.second / 3600

def minuteOfHour (time : TimeOfDay) : Nat := time.second / 60 % 60

def secondOfMinute (time : TimeOfDay) : Nat := time.second % 60

def chars (time : TimeOfDay) : List Char :=
  twoDigits time.hourOfDay ++ ':' :: twoDigits time.minuteOfHour ++
    ':' :: twoDigits (time.secondOfMinute + time.nanosecond / 1000000000)

def fraction (time : TimeOfDay) : Nat := time.nanosecond % 1000000000

/-- The fraction in the fewest groups of three digits. -/
def groupedFraction (time : TimeOfDay) : List Char :=
  let fraction := time.fraction
  if fraction = 0 then []
  else if fraction % 1000000 = 0 then '.' :: padZeros 3 (numeral (fraction / 1000000))
  else if fraction % 1000 = 0 then '.' :: padZeros 6 (numeral (fraction / 1000))
  else '.' :: padZeros 9 (numeral fraction)

def shortFraction (time : TimeOfDay) : List Char :=
  if time.fraction = 0 then []
  else '.' :: ((padZeros 9 (numeral time.fraction)).reverse.dropWhile (· == '0')).reverse

end TimeOfDay

namespace DateTime

def secondChars (value : DateTime) : List Char := value.date.chars ++ ' ' :: value.time.chars

def chars (value : DateTime) : List Char := value.secondChars ++ value.time.shortFraction

def shown (value : DateTime) : String :=
  String.ofList (value.secondChars ++ value.time.groupedFraction)

end DateTime

end TypeBridge
