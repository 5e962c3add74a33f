import TypeBridge.Text.Numeral

/-!
The column types of the engine, their families and their names.
-/
namespace TypeBridge

inductive LogicalType where
  | boolean
  | tinyInt
  | smallInt
  | integer
  | bigInt
  | real
  | double
  | decimal (precision scale : Nat)
  | char (length : Nat)
  | varchar (length : Option Nat)
  | varbinary
  | json
  | date
  | time (precision : Nat)
  | timestamp (precision : Nat)
  | timestampWithTimeZone (precision : Nat)
  | timeWithTimeZone (precision : Nat)
  | uuid
  deriving DecidableEq

namespace LogicalType

def maxDecimalPrecision : Nat := 38

def maxCharLength : Nat := 65536

/-- The longest bounded text, one less than the greatest signed 32-bit number. -/
def maxVarcharLength : Nat := 2147483646

def maxTemporalPrecision : Nat := 12

/-- Text whose comparison depends on the collation of the backend. -/
def isTextual : LogicalType → Bool
  | char _ | varchar _ => true
  | _ => false

def isInteger : LogicalType → Bool
  | tinyInt | smallInt | integer | bigInt => true
  | _ => false

def isFloating : LogicalType → Bool
  | real | double => true
  | _ => false

def isDecimal : LogicalType → Bool
  | decimal _ _ => true
  | _ => false

def isNumeric (type : LogicalType) : Bool := type.isInteger || type.isDecimal || type.isFloating

def withArguments (name : String) (arguments : List Nat) : String :=
  name ++ "(" ++ ",".intercalate (arguments.map Text.numberText) ++ ")"

def text : LogicalType → String
  | boolean => "boolean"
  | tinyInt => "tinyint"
  | smallInt => "smallint"
  | integer => "integer"
  | bigInt => "bigint"
  | real => "real"
  | double => "double"
  | decimal precision scale => withArguments "decimal" [precision, scale]
  | char length => withArguments "char" [length]
  | varchar (some length) => withArguments "varchar" [length]
  | varchar none => "varchar"
  | varbinary => "varbinary"
  | json => "json"
  | date => "date"
  | time precision => withArguments "time" [precision]
  | timestamp precision => withArguments "timestamp" [precision]
  | timestampWithTimeZone precision => withArguments "timestamp" [precision] ++ " with time zone"
  | timeWithTimeZone precision => withArguments "time" [precision] ++ " with time zone"
  | uuid => "uuid"

/-- The bounds that the checked constructors keep. -/
def Valid : LogicalType → Prop
  | decimal precision scale => 1 ≤ precision ∧ precision ≤ maxDecimalPrecision ∧ scale ≤ precision
  | char length => length ≤ maxCharLength
  | varchar (some length) => length < twoTo 32
  | time precision | timestamp precision | timestampWithTimeZone precision
  | timeWithTimeZone precision => precision ≤ maxTemporalPrecision
  | _ => True

end LogicalType

end TypeBridge
