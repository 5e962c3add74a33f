import TypeBridge.Binary.Shortest
import TypeBridge.Decimal.Text

/-!
Values as the engine holds them. Dates count days and times picoseconds; timestamps come in a short form
of one word and in a long form with the picoseconds beside it.
-/
namespace TypeBridge

structure LongTimestamp where
  epochMicros : Int64
  picosOfMicro : UInt32
  deriving DecidableEq

def LongTimestamp.picos (value : LongTimestamp) : Int :=
  value.epochMicros.toInt * 1000000 + value.picosOfMicro.toNat

structure LongZonedTimestamp where
  epochMillis : Int64
  picosOfMilli : UInt32
  zoneKey : Int16
  deriving DecidableEq

def LongZonedTimestamp.picos (value : LongZonedTimestamp) : Int :=
  value.epochMillis.toInt * 1000000000 + value.picosOfMilli.toNat

inductive LogicalValue where
  | null
  | boolean (value : Bool)
  | long (value : Int64)
  | real (value : Binary32)
  | double (value : Binary64)
  | decimal (value : Decimal)
  | text (value : String)
  | bytes (value : List UInt8)
  | date (epochDay : Int64)
  | time (picos : Int64)
  | shortTimestamp (epochMicros : Int64)
  | longTimestamp (value : LongTimestamp)
  | shortZonedTimestamp (packed : Int64)
  | longZonedTimestamp (value : LongZonedTimestamp)
  deriving DecidableEq

namespace LogicalValue

open TypeBridge.Text

def isNull : LogicalValue → Bool
  | null => true
  | _ => false

def kind : LogicalValue → String
  | null => "null"
  | boolean _ => "boolean"
  | long _ => "long"
  | real _ => "real"
  | double _ => "double"
  | decimal _ => "decimal"
  | text _ => "text"
  | bytes _ => "bytes"
  | date _ => "date"
  | time _ => "time"
  | shortTimestamp _ => "short timestamp"
  | longTimestamp _ => "long timestamp"
  | shortZonedTimestamp _ => "short timestamp with time zone"
  | longZonedTimestamp _ => "long timestamp with time zone"

def wordText (value : Int64) : String := integerText value.toInt

def shown : LogicalValue → String
  | null => "NULL"
  | boolean value => if value then "true" else "false"
  | long value => wordText value
  | real value => value.plainText
  | double value => value.plainText
  | decimal value => value.text
  | text value => value
  | bytes value => s!"<{numberText value.length} bytes>"
  | date epochDay => "date:" ++ wordText epochDay
  | time picos => "time:" ++ wordText picos
  | shortTimestamp epochMicros => "timestamp:" ++ wordText epochMicros
  | longTimestamp value =>
    s!"timestamp:{wordText value.epochMicros}+{numberText value.picosOfMicro.toNat}ps"
  | shortZonedTimestamp packed => "timestamptz:" ++ wordText packed
  | longZonedTimestamp value =>
    s!"timestamptz:{wordText value.epochMillis}+{numberText value.picosOfMilli.toNat}ps" ++
      "@" ++ integerText value.zoneKey.toInt

end LogicalValue

end TypeBridge
