import TypeBridge.Binary.Float
import TypeBridge.Calendar.Time
import TypeBridge.Decimal.Basic

/-!
Values as a driver yields them for a column or takes them as a parameter.
-/
namespace TypeBridge

/-- The parameter type under which a null is bound. -/
inductive NullType where
  | untyped
  | bool
  | tinyInt
  | smallInt
  | integer
  | bigInt
  | real
  | double
  | decimal
  | char
  | varchar
  | varbinary
  | date
  | time
  | dateTime
  | dateTimeOffset
  deriving DecidableEq

/-- Every whole number column yields a `long`. -/
inductive BackendValue where
  | null (type : NullType)
  | bool (value : Bool)
  | long (value : Int64)
  | float (value : Binary32)
  | double (value : Binary64)
  | decimal (value : Decimal)
  | text (value : String)
  | bytes (value : List UInt8)
  | date (value : Date)
  | time (value : TimeOfDay)
  | dateTime (value : DateTime)
  | dateTimeOffset (value : OffsetDateTime)
  deriving DecidableEq

namespace BackendValue

def isNull : BackendValue → Bool
  | null _ => true
  | _ => false

def kind : BackendValue → String
  | null _ => "null"
  | bool _ => "bool"
  | long _ => "long"
  | float _ => "float"
  | double _ => "double"
  | decimal _ => "decimal"
  | text _ => "text"
  | bytes _ => "bytes"
  | date _ => "date"
  | time _ => "time"
  | dateTime _ => "datetime"
  | dateTimeOffset _ => "datetime with offset"

end BackendValue

end TypeBridge
