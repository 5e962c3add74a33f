import TypeBridge.Json.Reader
import TypeBridge.Json.Record
import TypeBridge.Json.Writer
import TypeBridge.Value.Logical

/-!
Values of the engine as JSON: a field `kind` for the kind of value, and a field `value` for the rest,
which a null lacks. Decimals are written as text, so that their scale is kept.
-/
namespace TypeBridge.LogicalValue

def tag : LogicalValue → String
  | null => "null"
  | boolean _ => "boolean"
  | long _ => "long"
  | real _ => "real"
  | double _ => "double"
  | decimal _ => "decimal"
  | text _ => "text"
  | bytes _ => "bytes"
  | date _ => "date"
  | time _ => "time"
  | shortTimestamp _ => "short_timestamp"
  | longTimestamp _ => "long_timestamp"
  | shortZonedTimestamp _ => "short_timestamp_with_time_zone"
  | longZonedTimestamp _ => "long_timestamp_with_time_zone"

def wordJson (value : Int64) : Json := .integer value.toInt

def longTimestampJson (value : LongTimestamp) : Json :=
  .object [("epoch_micros", wordJson value.epochMicros),
    ("picos_of_micro", .integer value.picosOfMicro.toNat)]

def longZonedTimestampJson (value : LongZonedTimestamp) : Json :=
  .object [("epoch_millis", wordJson value.epochMillis),
    ("picos_of_milli", .integer value.picosOfMilli.toNat),
    ("time_zone_key", .integer value.zoneKey.toInt)]

def content? : LogicalValue → Option Json
  | null => none
  | boolean value => some (.boolean value)
  | long value | date value | time value | shortTimestamp value | shortZonedTimestamp value =>
    some (wordJson value)
  | real value => some (.single value)
  | double value => some (.double value)
  | decimal value => some (.string value.text)
  | text value => some (.string value)
  | bytes value => some (.array (value.map fun byte => .integer byte.toNat))
  | longTimestamp value => some (longTimestampJson value)
  | longZonedTimestamp value => some (longZonedTimestampJson value)

def toJson (value : LogicalValue) : Json :=
  .object (("kind", .string value.tag) ::
    match value.content? with
    | some content => [("value", content)]
    | none => [])

def jsonText (value : LogicalValue) : String := value.toJson.compact

def word? (value : Json) : Option Int64 :=
  (value.integerIn? (-(twoTo 63 : Int)) (twoTo 63)).map Int64.ofInt

def part? (value : Json) : Option UInt32 := (value.naturalBelow? (twoTo 32)).map UInt32.ofNat

def zoneKey? (value : Json) : Option Int16 :=
  (value.integerIn? (-(twoTo 15 : Int)) (twoTo 15)).map Int16.ofInt

def byte? (value : Json) : Option UInt8 := (value.naturalBelow? (twoTo 8)).map UInt8.ofNat

def truth? : Json → Option Bool
  | .boolean value => some value
  | _ => none

def real? : Json → Option Binary32
  | .integer value => some (.ofInt value)
  | .double value => some value.narrow
  | _ => none

def double? : Json → Option Binary64
  | .integer value => some (.ofInt value)
  | .double value => some value
  | _ => none

/-- A decimal from its text or from a number. -/
def decimal? : Json → Option Decimal
  | .string written => (Decimal.read written.toList).toOption
  | .integer value => Decimal.make? (decide (value < 0)) value.natAbs 0
  | .double value => (Decimal.read value.plainText.toList).toOption
  | _ => none

def bytes? : Json → Option (List UInt8)
  | .array items => items.mapM byte?
  | _ => none

def longTimestamp? (value : Json) : Option LongTimestamp := do
  let [some micros, some picos] ← value.fields? ["epoch_micros", "picos_of_micro"] | none
  return ⟨← word? micros, ← part? picos⟩

def longZonedTimestamp? (value : Json) : Option LongZonedTimestamp := do
  let [some millis, some picos, some zone] ←
    value.fields? ["epoch_millis", "picos_of_milli", "time_zone_key"] | none
  return ⟨← word? millis, ← part? picos, ← zoneKey? zone⟩

/-- The value of a kind with what it holds. Only a null may hold nothing, and then or else null. -/
def ofTag? (tag : String) (content : Option Json) : Option LogicalValue :=
  match tag, content with
  | "null", none | "null", some .null => some null
  | "boolean", some content => boolean <$> truth? content
  | "long", some content => long <$> word? content
  | "real", some content => real <$> real? content
  | "double", some content => double <$> double? content
  | "decimal", some content => decimal <$> decimal? content
  | "text", some content => text <$> content.text?
  | "bytes", some content => bytes <$> bytes? content
  | "date", some content => date <$> word? content
  | "time", some content => time <$> word? content
  | "short_timestamp", some content => shortTimestamp <$> word? content
  | "long_timestamp", some content => longTimestamp <$> longTimestamp? content
  | "short_timestamp_with_time_zone", some content => shortZonedTimestamp <$> word? content
  | "long_timestamp_with_time_zone", some content =>
    longZonedTimestamp <$> longZonedTimestamp? content
  | _, _ => none

/-- The kind as text, or as the only key of an object, with null for its value. -/
def tagText? : Json → Option String
  | .string tag => some tag
  | .object [(tag, .null)] => some tag
  | _ => none

def ofJson? : Json → Option LogicalValue
  | .object members => do
    let tag ← (← Json.member? "kind" members).bind tagText?
    ofTag? tag (← Json.member? "value" members)
  | .array [tag, content] => do ofTag? (← tagText? tag) (some content)
  | _ => none

def ofJsonText? (written : String) : Option LogicalValue := (Json.read written).toOption.bind ofJson?

end TypeBridge.LogicalValue
