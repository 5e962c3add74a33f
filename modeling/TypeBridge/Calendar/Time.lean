import TypeBridge.Calendar.Date

/-!
Times of day, local date-times, and date-times with an offset from UTC. A leap second keeps the number
of the second before it and runs its nanoseconds past a thousand million.
-/
namespace TypeBridge

structure TimeOfDay where
  second : Nat
  nanosecond : Nat
  second_lt : second < 86400
  nanosecond_lt : nanosecond < 2000000000
  deriving DecidableEq

namespace TimeOfDay

def midnight : TimeOfDay := ⟨0, 0, by decide, by decide⟩

/-- Nanoseconds past a thousand million are accepted in the last second of a minute only. -/
def make? (second nanosecond : Nat) : Option TimeOfDay :=
  if h : second < 86400 ∧ nanosecond < 2000000000 then
    if nanosecond < 1000000000 || second % 60 == 59 then some ⟨second, nanosecond, h.1, h.2⟩ else none
  else none

def isLeap (time : TimeOfDay) : Bool := 1000000000 ≤ time.nanosecond

def nanoOfDay (time : TimeOfDay) : Nat := time.second * 1000000000 + time.nanosecond

end TimeOfDay

structure DateTime where
  date : Date
  time : TimeOfDay
  deriving DecidableEq

namespace DateTime

def epochSecond (value : DateTime) : Int := value.date.epochDay * 86400 + value.time.second

def epochNano (value : DateTime) : Int := value.epochSecond * 1000000000 + value.time.nanosecond

def isLeap (value : DateTime) : Bool := value.time.isLeap

def ofEpochSecond? (second : Int) (nanosecond : Nat) : Option DateTime := do
  let date ← Date.ofEpochDay? (second / 86400)
  let time ← TimeOfDay.make? (second % 86400).toNat nanosecond
  return ⟨date, time⟩

def ofEpochNano? (nanos : Int) : Option DateTime :=
  ofEpochSecond? (nanos / 1000000000) (nanos % 1000000000).toNat

def yearEarlier? (value : DateTime) : Option DateTime :=
  value.date.yearEarlier?.map fun date => ⟨date, value.time⟩

/-- The date-time `seconds` later, when the calendar has it. The nanoseconds stay. -/
def shift? (value : DateTime) (seconds : Int) : Option DateTime := do
  let shifted := value.epochSecond + seconds
  let date ← Date.ofEpochDay? (shifted / 86400)
  return ⟨date, ⟨(shifted % 86400).toNat, value.time.nanosecond, by omega, value.time.nanosecond_lt⟩⟩

end DateTime

/-- An instant, as a date-time in UTC, and the offset in seconds at which it is shown. -/
structure OffsetDateTime where
  utc : DateTime
  offset : Int
  deriving DecidableEq

namespace OffsetDateTime

def atUtc (value : DateTime) : OffsetDateTime := ⟨value, 0⟩

def ofLocal? (value : DateTime) (offset : Int) : Option OffsetDateTime :=
  if -86400 < offset ∧ offset < 86400 then (value.shift? (-offset)).map fun utc => ⟨utc, offset⟩
  else none

def local? (value : OffsetDateTime) : Option DateTime := value.utc.shift? value.offset

end OffsetDateTime

end TypeBridge
