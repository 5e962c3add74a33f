import TypeBridge.Text.Numeral

/-!
The types of columns that are created, as data and as they stand in a statement.
-/
namespace TypeBridge

inductive DataType where
  | boolean
  | tinyInt
  | smallInt
  | integer
  | bigInt
  | float
  | doublePrecision
  | binaryFloat
  | binaryDouble
  | decimal (precision scale : Nat)
  /-- Without a scale a number is whole. -/
  | number (precision : Nat) (scale : Option Nat)
  | char (length : Nat)
  /-- The length counts characters, also where a length would count bytes. -/
  | charOfChars (length : Nat)
  | varcharOfChars (length : Nat)
  | tinyText
  | text
  | mediumText
  | longText
  | clob
  | json
  | blob
  | date
  | time (precision : Nat)
  | dateTime (precision : Nat)
  | timestamp (precision : Nat)
  deriving DecidableEq

namespace DataType

open TypeBridge.Text (numberText)

def sized (name : String) (size : Nat) : String := s!"{name}({numberText size})"

def sizedChars (name : String) (size : Nat) : String := s!"{name}({numberText size} CHAR)"

def scaled (name : String) (precision scale : Nat) : String :=
  s!"{name}({numberText precision}, {numberText scale})"

def sql : DataType → String
  | boolean => "boolean"
  | tinyInt => "tinyint"
  | smallInt => "smallint"
  | integer => "integer"
  | bigInt => "bigint"
  | float => "float"
  | doublePrecision => "double precision"
  | binaryFloat => "binary_float"
  | binaryDouble => "binary_double"
  | decimal precision scale => scaled "decimal" precision scale
  | number precision none => sized "number" precision
  | number precision (some scale) => scaled "number" precision scale
  | char length => sized "char" length
  | charOfChars length => sizedChars "char" length
  | varcharOfChars length => sizedChars "varchar2" length
  | tinyText => "tinytext"
  | text => "text"
  | mediumText => "mediumtext"
  | longText => "longtext"
  | clob => "clob"
  | json => "json"
  | blob => "blob"
  | date => "date"
  | time precision => sized "time" precision
  | dateTime precision => sized "datetime" precision
  | timestamp precision => sized "timestamp" precision

end DataType

end TypeBridge
