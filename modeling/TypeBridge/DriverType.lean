import TypeBridge.Text.Blank
import TypeBridge.Text.Case
import TypeBridge.Text.Numeral

/-!
The generic type codes by which a driver describes columns, two vendor codes for binary floating point
among them. A code without a name stands for itself.
-/
namespace TypeBridge

inductive DriverType where
  | bit
  | tinyInt
  | smallInt
  | integer
  | bigInt
  | float
  | real
  | double
  | numeric
  | decimal
  | char
  | varchar
  | longVarchar
  | nationalChar
  | nationalVarchar
  | longNationalVarchar
  | date
  | time
  | timestamp
  | binary
  | varbinary
  | longVarbinary
  | null
  | other
  | object
  | distinct
  | struct
  | array
  | blob
  | clob
  | reference
  | boolean
  | rowId
  | nationalClob
  | xml
  | timeWithTimeZone
  | timestampWithTimeZone
  | binaryFloat
  | binaryDouble
  | unnamed (code : Int)
  deriving DecidableEq

namespace DriverType

def named : List DriverType :=
  [bit, tinyInt, smallInt, integer, bigInt, float, real, double, numeric, decimal, char, varchar,
    longVarchar, nationalChar, nationalVarchar, longNationalVarchar, date, time, timestamp, binary,
    varbinary, longVarbinary, null, other, object, distinct, struct, array, blob, clob, reference,
    boolean, rowId, nationalClob, xml, timeWithTimeZone, timestampWithTimeZone, binaryFloat,
    binaryDouble]

def code : DriverType → Int
  | bit => -7
  | tinyInt => -6
  | smallInt => 5
  | integer => 4
  | bigInt => -5
  | float => 6
  | real => 7
  | double => 8
  | numeric => 2
  | decimal => 3
  | char => 1
  | varchar => 12
  | longVarchar => -1
  | nationalChar => -15
  | nationalVarchar => -9
  | longNationalVarchar => -16
  | date => 91
  | time => 92
  | timestamp => 93
  | binary => -2
  | varbinary => -3
  | longVarbinary => -4
  | null => 0
  | other => 1111
  | object => 2000
  | distinct => 2001
  | struct => 2002
  | array => 2003
  | blob => 2004
  | clob => 2005
  | reference => 2006
  | boolean => 16
  | rowId => -8
  | nationalClob => 2011
  | xml => 2009
  | timeWithTimeZone => 2013
  | timestampWithTimeZone => 2014
  | binaryFloat => 100
  | binaryDouble => 101
  | unnamed code => code

def name? : DriverType → Option String
  | bit => "BIT"
  | tinyInt => "TINYINT"
  | smallInt => "SMALLINT"
  | integer => "INTEGER"
  | bigInt => "BIGINT"
  | float => "FLOAT"
  | real => "REAL"
  | double => "DOUBLE"
  | numeric => "NUMERIC"
  | decimal => "DECIMAL"
  | char => "CHAR"
  | varchar => "VARCHAR"
  | longVarchar => "LONGVARCHAR"
  | nationalChar => "NCHAR"
  | nationalVarchar => "NVARCHAR"
  | longNationalVarchar => "LONGNVARCHAR"
  | date => "DATE"
  | time => "TIME"
  | timestamp => "TIMESTAMP"
  | binary => "BINARY"
  | varbinary => "VARBINARY"
  | longVarbinary => "LONGVARBINARY"
  | null => "NULL"
  | other => "OTHER"
  | object => "JAVA_OBJECT"
  | distinct => "DISTINCT"
  | struct => "STRUCT"
  | array => "ARRAY"
  | blob => "BLOB"
  | clob => "CLOB"
  | reference => "REF"
  | boolean => "BOOLEAN"
  | rowId => "ROWID"
  | nationalClob => "NCLOB"
  | xml => "SQLXML"
  | timeWithTimeZone => "TIME_WITH_TIMEZONE"
  | timestampWithTimeZone => "TIMESTAMP_WITH_TIMEZONE"
  | binaryFloat => "BINARY_FLOAT"
  | binaryDouble => "BINARY_DOUBLE"
  | unnamed _ => none

def ofCode (code : Int) : DriverType := (named.find? (·.code == code)).getD (unnamed code)

def ofName? (name : String) : Option DriverType :=
  let folded := String.ofList (Text.uppercase (Text.trim name.toList))
  named.find? (·.name? == some folded)

def text (type : DriverType) : String := type.name?.getD (Text.integerText type.code)

end DriverType

/-- What a driver reports about one column. The size is the precision of a number, the length of a
text or the display width of a date or time. Drivers report words of 32 bits with a sign; here the numbers have
no bounds, and are calculated with as in words unless they are next to the least one. -/
structure Descriptor where
  typeCode : Int
  typeName : Option String
  columnSize : Option Int
  decimalDigits : Option Int
  deriving DecidableEq

namespace Descriptor

def ofType (type : DriverType) (name : String) : Descriptor := ⟨type.code, some name, none, none⟩

def withSize (descriptor : Descriptor) (size : Int) : Descriptor :=
  { descriptor with columnSize := some size }

def withDigits (descriptor : Descriptor) (digits : Int) : Descriptor :=
  { descriptor with decimalDigits := some digits }

def driverType (descriptor : Descriptor) : DriverType := .ofCode descriptor.typeCode

def absent : String := "<none>"

def text (descriptor : Descriptor) : String :=
  "\x7bjdbc_type=" ++ descriptor.driverType.text ++
    ", type_name=" ++ descriptor.typeName.getD absent ++
    ", column_size=" ++ (descriptor.columnSize.map Text.integerText).getD absent ++
    ", decimal_digits=" ++ (descriptor.decimalDigits.map Text.integerText).getD absent ++ "\x7d"

end Descriptor

end TypeBridge
