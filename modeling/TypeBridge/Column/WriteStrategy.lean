import TypeBridge.Column.ReadStrategy
import TypeBridge.Temporal.Precision

/-!
How a value is bound as a parameter: the expression that takes it, the type of its null, and the value
handed to the driver.
-/
namespace TypeBridge

inductive WriteStrategy where
  | boolean
  | tinyInt
  | smallInt
  | integer
  | bigInt
  | real
  | double
  | decimal (precision scale : Nat)
  | char
  | varchar
  | varbinary
  | isoDate
  | formattedDate
  | timestampToDate
  | time (precision : Nat)
  | timestamp (precision : Nat)
  | longTimestamp (precision : Nat)
  | formattedTimestamp (precision : Nat)
  | formattedLongTimestamp (precision : Nat)
  | shortZonedTimestamp
  | longZonedTimestamp
  deriving DecidableEq

namespace WriteStrategy

def name : WriteStrategy → String
  | boolean => "boolean"
  | tinyInt => "tinyint"
  | smallInt => "smallint"
  | integer => "integer"
  | bigInt => "bigint"
  | real => "real"
  | double => "double"
  | decimal _ _ => "decimal"
  | char => "char"
  | varchar => "varchar"
  | varbinary => "varbinary"
  | isoDate => "iso date"
  | formattedDate => "formatted date"
  | timestampToDate => "timestamp to date"
  | time _ => "time"
  | timestamp _ => "timestamp"
  | longTimestamp _ => "long timestamp"
  | formattedTimestamp _ => "formatted timestamp"
  | formattedLongTimestamp _ => "formatted long timestamp"
  | shortZonedTimestamp => "short timestamp with time zone"
  | longZonedTimestamp => "long timestamp with time zone"

def bindExpression : WriteStrategy → String
  | isoDate => Temporal.dateExpression .mysql
  | formattedDate | timestampToDate => Temporal.dateExpression .oracle
  | formattedTimestamp precision | formattedLongTimestamp precision =>
    Temporal.timestampExpression precision
  | _ => "?"

def nullType : WriteStrategy → NullType
  | boolean | tinyInt => .tinyInt
  | smallInt => .smallInt
  | integer => .integer
  | bigInt => .bigInt
  | real => .real
  | double => .double
  | decimal _ _ => .decimal
  | char => .char
  | varchar => .varchar
  | varbinary => .varbinary
  | isoDate => .untyped
  | formattedDate | timestampToDate | formattedTimestamp _ | formattedLongTimestamp _ => .varchar
  | time _ => .time
  | timestamp _ | longTimestamp _ => .dateTime
  | shortZonedTimestamp | longZonedTimestamp => .dateTimeOffset

def nullValue (strategy : WriteStrategy) : BackendValue := .null strategy.nullType

open TypeBridge.Temporal

def dateText (day : Int64) : Except Error BackendValue :=
  return .text (String.ofList (← dateOfEpochDay day.toInt).chars)

def dateTimeText (value : DateTime) : BackendValue := .text (String.ofList value.chars)

def encode (strategy : WriteStrategy) (value : LogicalValue) : Except Error BackendValue :=
  match strategy, value with
  | strategy, .null => .ok strategy.nullValue
  | boolean, .boolean value => .ok (.long (if value then 1 else 0))
  | tinyInt, .long value => .long <$> checkInteger 8 "tinyint" value
  | smallInt, .long value => .long <$> checkInteger 16 "smallint" value
  | integer, .long value => .long <$> checkInteger 32 "integer" value
  | bigInt, .long value => .ok (.long value)
  | real, .real value => .ok (.float value)
  | double, .double value => .ok (.double value)
  | decimal precision scale, .decimal value => .decimal <$> fitDecimal value precision scale none
  | char, .text text | varchar, .text text => .ok (.text text)
  | varbinary, .bytes bytes => .ok (.bytes bytes)
  | isoDate, .date day | formattedDate, .date day => dateText day
  | timestampToDate, .shortTimestamp micros => do
    let value ← wholeSecondDateTime micros.toInt
    return .text (String.ofList value.secondChars)
  | time precision, .time picos => .time <$> timeOfPicos picos.toInt precision
  | timestamp _, .shortTimestamp micros => .dateTime <$> dateTimeOfEpochMicros micros.toInt
  | longTimestamp precision, .longTimestamp value =>
    .dateTime <$> dateTimeOfLongTimestamp value precision
  | formattedTimestamp _, .shortTimestamp micros =>
    dateTimeText <$> dateTimeOfEpochMicros micros.toInt
  | formattedLongTimestamp precision, .longTimestamp value =>
    dateTimeText <$> dateTimeOfLongTimestamp value precision
  | shortZonedTimestamp, .shortZonedTimestamp packed =>
    .dateTimeOffset <$> instantOfMillis (unpackMillis packed)
  | longZonedTimestamp, .longZonedTimestamp value => .dateTimeOffset <$> instantOfLong value
  | strategy, value => .error (.invalidValue (.unwritable strategy.name value.kind))

end WriteStrategy

end TypeBridge
