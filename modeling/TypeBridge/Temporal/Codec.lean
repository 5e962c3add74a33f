import TypeBridge.Error
import TypeBridge.Temporal.Grid
import TypeBridge.Value.Logical

/-!
Between the dates and times of a driver and the words of the engine.
-/
namespace TypeBridge.Temporal

def rangeError {α : Type} (fault : RangeFault) : Except Error α := .error (.invalidValue (.range fault))

def orRange {α : Type} (fault : RangeFault) : Option α → Except Error α
  | some value => .ok value
  | none => rangeError fault

def picosPerDay : Int := 86400000000000000

def dateOfEpochDay (day : Int) : Except Error Date := orRange (.epochDay day) (Date.ofEpochDay? day)

/-- A backend hands out dates up to the year zero one year late; this moves them back. -/
def correctEarlyYear (value : DateTime) : Except Error DateTime :=
  if 0 < value.date.year then .ok value else orRange (.timestamp value) value.yearEarlier?

/-- Picoseconds since midnight. What rounds up to the next day becomes midnight. -/
def picosOfDay (time : TimeOfDay) (precision : Nat) : Int :=
  let picos := roundToPrecision ((time.nanoOfDay : Int) * 1000) 12 precision
  if picos = picosPerDay then 0 else picos

def timeOfPicos (picos : Int) (precision : Nat) : Except Error TimeOfDay :=
  if 0 ≤ picos ∧ picos < picosPerDay then
    let rounded := roundToPrecision picos 12 precision
    let nanos := roundDiv (if rounded = picosPerDay then 0 else rounded) 1000
    orRange (.timeOfDay picos)
      (TimeOfDay.make? (nanos / 1000000000).toNat (nanos % 1000000000).toNat)
  else rangeError (.timeOfDay picos)

def dateTimeOfEpochNano (nanos : Int) : Except Error DateTime :=
  orRange (.epochNano nanos) (DateTime.ofEpochNano? nanos)

def epochMicros (value : DateTime) (precision : Nat) : Except Error Int64 :=
  orRange (.timestamp value) (word? ((roundToPrecision value.epochNano 9 precision).tdiv 1000))

def dateTimeOfEpochMicros (micros : Int) : Except Error DateTime := dateTimeOfEpochNano (micros * 1000)

/-- The long form of a date-time; digits past the ninth are zero. -/
def longTimestamp (value : DateTime) (precision : Nat) : Except Error LongTimestamp := do
  let picos := roundToPrecision (value.epochNano * 1000) 12 precision
  let micros ← orRange (.timestamp value) (word? (picos / 1000000))
  return ⟨micros, UInt32.ofNat (picos % 1000000).toNat⟩

/-- The date-time of a long form, rounded to `precision` digits and at most nine. -/
def dateTimeOfLongTimestamp (value : LongTimestamp) (precision : Nat) : Except Error DateTime :=
  dateTimeOfEpochNano (roundToPrecision value.picos 12 (min precision 9) / 1000)

def wholeSecondDateTime (micros : Int) : Except Error DateTime :=
  if micros % 1000000 = 0 then dateTimeOfEpochMicros micros
  else .error (.metadataContract (.fractionalSecond micros))

def utcKey : Int16 := 0

/-- Milliseconds in the high bits of a word and the zone key in the low twelve. -/
def pack (millis : Int) (zoneKey : Int16) : Except Error Int64 :=
  orRange (.epochMilli millis)
    ((word? (millis * 4096)).map fun _ => Int64.ofInt (millis * 4096 + zoneKey.toInt % 4096))

def unpackMillis (packed : Int64) : Int := packed.toInt / 4096

def unpackZoneKey (packed : Int64) : Int16 := Int16.ofInt (packed.toInt % 4096)

/-- Milliseconds since the epoch; further digits are dropped. -/
def epochMilli (value : OffsetDateTime) : Int :=
  value.utc.epochSecond * 1000 + value.utc.time.nanosecond / 1000000

def shortZonedTimestamp (value : OffsetDateTime) : Except Error Int64 := pack (epochMilli value) utcKey

def longZonedTimestamp (value : OffsetDateTime) : LongZonedTimestamp :=
  ⟨Int64.ofInt (epochMilli value), UInt32.ofNat (value.utc.time.nanosecond % 1000000 * 1000), utcKey⟩

def instantOfMillis (millis : Int) : Except Error OffsetDateTime :=
  orRange (.epochMilli millis)
    ((DateTime.ofEpochSecond? (millis / 1000) ((millis % 1000).toNat * 1000000)).map .atUtc)

def instantOfLong (value : LongZonedTimestamp) : Except Error OffsetDateTime :=
  let millis := value.epochMillis.toInt
  orRange (.epochMilli millis)
    ((DateTime.ofEpochSecond? (millis / 1000)
      ((millis % 1000).toNat * 1000000 + value.picosOfMilli.toNat / 1000)).map .atUtc)

end TypeBridge.Temporal
