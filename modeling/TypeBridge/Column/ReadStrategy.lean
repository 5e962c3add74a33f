import TypeBridge.Json.Writer
import TypeBridge.Temporal.Codec
import TypeBridge.Text.Blank
import TypeBridge.Value.Backend

/-!
How a value of a column is decoded. The set of strategies is closed. A null decodes to null under every
one of them; a value of another kind than the strategy reads is refused.
-/
namespace TypeBridge

inductive ReadStrategy where
  | boolean
  | tinyInt
  | smallInt
  | integer
  | bigInt
  | real
  | double
  | decimal (precision scale : Nat) (rounding : Option RoundingMode)
  | char
  | varchar
  | json
  | varbinary
  | date
  /-- A date with a time of day, read as a timestamp in whole seconds. -/
  | dateAsTimestamp
  | time (precision : Nat)
  | timestamp (precision : Nat)
  | longTimestamp (precision : Nat)
  | shortZonedTimestamp
  | longZonedTimestamp
  deriving DecidableEq

def checkInteger (bits : Nat) (type : String) (value : Int64) : Except Error Int64 :=
  if -(twoTo (bits - 1) : Int) ≤ value.toInt ∧ value.toInt < twoTo (bits - 1) then .ok value
  else .error (.invalidValue (.integerRange type value.toInt))

def fitDecimal (value : Decimal) (precision scale : Nat) (rounding : Option RoundingMode) :
    Except Error Decimal :=
  match value.fit precision scale rounding with
  | .ok fitted => .ok fitted
  | .error fault => .error (.invalidValue (.decimalFit value precision scale fault))

def readDecimal (text : String) : Except Error Decimal :=
  match Decimal.read (Text.trim text.toList) with
  | .ok value => .ok value
  | .error fault => .error (.invalidValue (.decimalText text fault))

def canonicalJson (text : String) : Except Error String :=
  match Json.read text with
  | .ok value => .ok value.canonical.compact
  | .error fault => .error (.invalidValue (.jsonText fault))

namespace ReadStrategy

def name : ReadStrategy → String
  | boolean => "boolean"
  | tinyInt => "tinyint"
  | smallInt => "smallint"
  | integer => "integer"
  | bigInt => "bigint"
  | real => "real"
  | double => "double"
  | decimal _ _ none => "decimal"
  | decimal _ _ (some _) => "rounded decimal"
  | char => "char"
  | varchar => "varchar"
  | json => "json"
  | varbinary => "varbinary"
  | date => "date"
  | dateAsTimestamp => "date as timestamp"
  | time _ => "time"
  | timestamp _ => "timestamp"
  | longTimestamp _ => "long timestamp"
  | shortZonedTimestamp => "short timestamp with time zone"
  | longZonedTimestamp => "long timestamp with time zone"

open TypeBridge.Temporal

def decodeDate (value : DateTime) : Except Error LogicalValue := do
  let corrected ← correctEarlyYear value
  return .shortTimestamp (← epochMicros corrected 0)

def decode (strategy : ReadStrategy) (value : BackendValue) : Except Error LogicalValue :=
  match strategy, value with
  | _, .null _ => .ok .null
  | boolean, .bool value => .ok (.boolean value)
  | boolean, .long value => .ok (.boolean (value.toInt != 0))
  | tinyInt, .long value => .long <$> checkInteger 8 "tinyint" value
  | smallInt, .long value => .long <$> checkInteger 16 "smallint" value
  | integer, .long value => .long <$> checkInteger 32 "integer" value
  | bigInt, .long value => .ok (.long value)
  | real, .float value => .ok (.real value)
  | real, .double value => .ok (.real value.narrow)
  | double, .double value => .ok (.double value)
  | double, .float value => .ok (.double value.widen)
  | decimal precision scale rounding, .decimal value =>
    .decimal <$> fitDecimal value precision scale rounding
  | decimal precision scale rounding, .long value =>
    .decimal <$> fitDecimal (Decimal.ofInt64 value) precision scale rounding
  | decimal precision scale rounding, .text text => do
    let value ← readDecimal text
    return .decimal (← fitDecimal value precision scale rounding)
  | char, .text text =>
    .ok (.text (String.ofList (Text.dropEndWhile (· == ' ') text.toList)))
  | varchar, .text text => .ok (.text text)
  | json, .text text => .text <$> canonicalJson text
  | varbinary, .bytes bytes => .ok (.bytes bytes)
  | date, .date value => .ok (.date (Int64.ofInt value.epochDay))
  | dateAsTimestamp, .dateTime value => decodeDate value
  | dateAsTimestamp, .date value => decodeDate ⟨value, .midnight⟩
  | time precision, .time value => .ok (.time (Int64.ofInt (picosOfDay value precision)))
  | timestamp precision, .dateTime value => .shortTimestamp <$> epochMicros value precision
  | longTimestamp precision, .dateTime value =>
    .longTimestamp <$> Temporal.longTimestamp value precision
  | shortZonedTimestamp, .dateTimeOffset value =>
    .shortZonedTimestamp <$> Temporal.shortZonedTimestamp value
  | shortZonedTimestamp, .dateTime value =>
    .shortZonedTimestamp <$> Temporal.shortZonedTimestamp (.atUtc value)
  | longZonedTimestamp, .dateTimeOffset value =>
    .ok (.longZonedTimestamp (Temporal.longZonedTimestamp value))
  | longZonedTimestamp, .dateTime value =>
    .ok (.longZonedTimestamp (Temporal.longZonedTimestamp (.atUtc value)))
  | strategy, value => .error (.invalidValue (.unreadable strategy.name value.kind))

end ReadStrategy

end TypeBridge
