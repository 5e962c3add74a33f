import TypeBridge.Binary.Float
import TypeBridge.Text.Blank
import TypeBridge.Text.Numeral

/-!
Durations as text: a number and a unit. The number is a double, and so is its product with the unit; the
result is rounded to whole nanoseconds. Written, a duration counts seconds where it can and milliseconds
otherwise.
-/
namespace TypeBridge

structure Duration where
  nanos : Nat
  nanos_lt : nanos < twoTo 64
  deriving DecidableEq

namespace Duration

open TypeBridge.Text

inductive Fault where
  | noUnit
  | badNumber
  | unknownUnit
  | negative
  | outOfRange
  deriving DecidableEq

def Fault.message (text : String) (fault : Fault) : String :=
  s!"duration '{text}' " ++
    match fault with
    | .noUnit => "has no unit"
    | .badNumber => "has an invalid number"
    | .unknownUnit => "has an unknown unit"
    | .negative => "must be non-negative"
    | .outOfRange => "is out of range"

def unitNanos? (unit : String) : Option Nat :=
  match unit with
  | "ns" => some 1
  | "us" => some 1000
  | "ms" => some 1000000
  | "s" => some 1000000000
  | "m" => some 60000000000
  | "h" => some 3600000000000
  | "d" => some 86400000000000
  | _ => none

/-- Digits with at most one point among them, and at least one digit. -/
def readMagnitude? (negative : Bool) (text : List Char) : Option Binary64 :=
  let whole := text.takeWhile (· != '.')
  let fraction := (text.dropWhile (· != '.')).drop 1
  if (whole ++ fraction).isEmpty || !(whole ++ fraction).all isDigit then none
  else some (Binary64.ofRatio negative (digitsValue (whole ++ fraction)) (tenTo fraction.length))

def readNumber? (text : List Char) : Option Binary64 :=
  match text with
  | '-' :: rest => readMagnitude? true rest
  | '+' :: rest => readMagnitude? false rest
  | text => readMagnitude? false text

/-- The nearest whole number of a magnitude, where a half goes up; none for infinity. -/
def wholeMagnitude? (value : Binary64) : Option Nat :=
  match value.datum with
  | .finite _ units =>
    some ((2 * units + twoTo Binary.double.unitPlaces) / twoTo (Binary.double.unitPlaces + 1))
  | _ => none

/-- A whole number of nanoseconds, up to two to the power of 64, which counts as one less. -/
def ofNanos? (nanos : Nat) : Option Duration :=
  if h : nanos < twoTo 64 then some ⟨nanos, h⟩
  else if nanos = twoTo 64 then some ⟨twoTo 64 - 1, by decide⟩
  else none

def ofProduct (value : Binary64) (factor : Nat) : Except Fault Duration :=
  match value.datum with
  | .finite negative units =>
    if negative && units != 0 then .error .negative
    else
      match (wholeMagnitude? (value.timesNat factor)).bind ofNanos? with
      | some duration => .ok duration
      | none => .error .outOfRange
  | _ => .error .negative

def parse (text : String) : Except Fault Duration :=
  let trimmed := trim text.toList
  let number := trimmed.takeWhile (!·.isAlpha)
  match trimmed.dropWhile (!·.isAlpha) with
  | [] => .error .noUnit
  | unit =>
    match readNumber? (trim number), unitNanos? (String.ofList (trim unit)) with
    | none, _ => .error .badNumber
    | some _, none => .error .unknownUnit
    | some value, some factor => ofProduct value factor

def millis (duration : Duration) : Nat := duration.nanos / 1000000

def format (duration : Duration) : String :=
  if duration.millis % 1000 = 0 then numberText (duration.millis / 1000) ++ "s"
  else numberText duration.millis ++ "ms"

def ofSeconds (seconds : Nat) (h : seconds * 1000000000 < twoTo 64) : Duration :=
  ⟨seconds * 1000000000, h⟩

end Duration

end TypeBridge
