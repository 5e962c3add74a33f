import TypeBridge.Column.DataType
import TypeBridge.Column.WriteStrategy

/-!
From a type of the engine to the type of a new column and the strategy by which its values are bound.
Times with a zone and identifiers of universal kind have no column type.
-/
namespace TypeBridge

structure WriteMapping where
  dataType : DataType
  write : WriteStrategy
  deriving DecidableEq

namespace WriteMapping

open TypeBridge.Temporal

/-- The most bytes that one character takes. -/
def bytesPerChar : Nat := 4

def mysqlCharLimit : Nat := 256

def oracleCharBytes : Nat := 2000

def oracleVarcharBytes : Nat := 32767

def tinyTextBytes : Nat := 255

def textBytes : Nat := 65535

def mediumTextBytes : Nat := 16777215

def commonPrecision : Nat := Mode.mysql.maxPrecision

def perMode (mode : Mode) (mysql oracle : DataType) : DataType :=
  match mode with
  | .mysql => mysql
  | .oracle => oracle

def wholeNumber (precision : Nat) : DataType := .number precision none

def charType (mode : Mode) (length : Nat) : DataType :=
  match mode with
  | .mysql => if length < mysqlCharLimit then .char length else .clob
  | .oracle => if length < oracleCharBytes / bytesPerChar then .charOfChars length else .clob

def varcharType (mode : Mode) (length : Option Nat) : DataType :=
  match mode, length with
  | .mysql, none => .longText
  | .mysql, some length =>
    if mediumTextBytes < length then .longText
    else if length ≤ tinyTextBytes then .tinyText
    else if length ≤ textBytes then .text
    else .mediumText
  | .oracle, none => .clob
  | .oracle, some length =>
    if length ≤ oracleVarcharBytes / bytesPerChar then .varcharOfChars length else .clob

def ofTimestamp (mode : Mode) (precision : Nat) : WriteMapping :=
  match mode with
  | .mysql =>
    if precision ≤ mode.maxPrecision then ⟨.dateTime precision, .timestamp precision⟩
    else ⟨.dateTime mode.maxPrecision, .longTimestamp mode.maxPrecision⟩
  | .oracle =>
    if precision = 0 then ⟨.date, .timestampToDate⟩
    else
      let stored := min precision mode.maxPrecision
      ⟨.timestamp stored,
        if precision ≤ maxShortPrecision then .formattedTimestamp precision
        else .formattedLongTimestamp stored⟩

def ofZonedTimestamp (precision : Nat) : WriteMapping :=
  ⟨.timestamp (min precision commonPrecision),
    if precision ≤ maxShortZonedPrecision then .shortZonedTimestamp else .longZonedTimestamp⟩

def ofType (mode : Mode) (type : LogicalType) : Except Error WriteMapping :=
  match type with
  | .boolean => .ok ⟨perMode mode .boolean (wholeNumber 1), .boolean⟩
  | .tinyInt => .ok ⟨perMode mode .tinyInt (wholeNumber 3), .tinyInt⟩
  | .smallInt => .ok ⟨perMode mode .smallInt (wholeNumber 5), .smallInt⟩
  | .integer => .ok ⟨perMode mode .integer (wholeNumber 10), .integer⟩
  | .bigInt => .ok ⟨perMode mode .bigInt (wholeNumber 19), .bigInt⟩
  | .real => .ok ⟨perMode mode .float .binaryFloat, .real⟩
  | .double => .ok ⟨perMode mode .doublePrecision .binaryDouble, .double⟩
  | .decimal precision scale =>
    .ok ⟨perMode mode (.decimal precision scale) (.number precision (some scale)),
      .decimal precision scale⟩
  | .char length => .ok ⟨charType mode length, .char⟩
  | .varchar length => .ok ⟨varcharType mode length, .varchar⟩
  | .json => .ok ⟨.json, .varchar⟩
  | .varbinary => .ok ⟨.blob, .varbinary⟩
  | .date =>
    .ok ⟨.date, match mode with
      | .mysql => .isoDate
      | .oracle => .formattedDate⟩
  | .time precision =>
    let stored := min precision commonPrecision
    .ok ⟨.time stored, .time stored⟩
  | .timestamp precision => .ok (ofTimestamp mode precision)
  | .timestampWithTimeZone precision => .ok (ofZonedTimestamp precision)
  | .timeWithTimeZone _ | .uuid => .error (.notSupported (.columnType type))

end WriteMapping

end TypeBridge
