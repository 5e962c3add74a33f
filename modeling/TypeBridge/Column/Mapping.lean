import TypeBridge.Column.WriteStrategy
import TypeBridge.LogicalType.Checked
import TypeBridge.Session

/-!
From the metadata of a column to its type in the engine. The first rule that applies decides: codes that
are forced to text, then names that mean a type of their own, then the type code. A column that no rule
covers is left out.
-/
namespace TypeBridge

/-- Whether the backend may evaluate predicates on a column. -/
inductive Pushdown where
  | full
  | disabled
  /-- The backend compares without letter case, so even equality stays in the engine. -/
  | caseInsensitive
  deriving DecidableEq

def Pushdown.name : Pushdown → String
  | full => "full"
  | disabled => "disabled"
  | caseInsensitive => "case-insensitive"

structure ColumnMapping where
  logicalType : LogicalType
  read : ReadStrategy
  write : WriteStrategy
  pushdown : Pushdown
  deriving DecidableEq

namespace Descriptor

def requiredTypeName (descriptor : Descriptor) : Except Error String :=
  match descriptor.typeName with
  | some name => .ok name
  | none => .error (.metadataContract (.missingTypeName descriptor))

def requiredSize (descriptor : Descriptor) : Except Error Int :=
  match descriptor.columnSize with
  | some size => .ok size
  | none => .error (.metadataContract (.missingSize descriptor))

def requiredDigits (descriptor : Descriptor) : Except Error Int :=
  match descriptor.decimalDigits with
  | some digits => .ok digits
  | none => .error (.metadataContract (.missingDigits descriptor))

end Descriptor

namespace ColumnMapping

open LogicalType (maxDecimalPrecision maxCharLength maxVarcharLength)
open TypeBridge.Temporal

def forcedVarchar : ColumnMapping := ⟨.varchar none, .varchar, .varchar, .disabled⟩

def ofTinyInt : ColumnMapping := ⟨.tinyInt, .tinyInt, .tinyInt, .full⟩

def ofSmallInt : ColumnMapping := ⟨.smallInt, .smallInt, .smallInt, .full⟩

def ofInteger : ColumnMapping := ⟨.integer, .integer, .integer, .full⟩

def ofBigInt : ColumnMapping := ⟨.bigInt, .bigInt, .bigInt, .full⟩

def ofDecimal (precision scale : Nat) (rounding : Option RoundingMode) : ColumnMapping :=
  ⟨.decimal precision scale, .decimal precision scale rounding, .decimal precision scale, .full⟩

/-- Text whose size is no length of the engine is unbounded. -/
def ofVarchar (size : Int) : ColumnMapping :=
  let length := if 0 ≤ size ∧ size ≤ maxVarcharLength then some size.toNat else none
  ⟨.varchar length, .varchar, .varchar, .caseInsensitive⟩

def ofChar (size : Int) : ColumnMapping :=
  if 0 ≤ size ∧ size ≤ maxCharLength then ⟨.char size.toNat, .char, .char, .caseInsensitive⟩
  else ofVarchar size

/-- A date with a time of day where the mode has no other. -/
def ofDate : Mode → ColumnMapping
  | .mysql => ⟨.date, .date, .isoDate, .full⟩
  | .oracle => ⟨.timestamp 0, .dateAsTimestamp, .timestampToDate, .full⟩

def ofTime (mode : Mode) (size : Int) : Except Error ColumnMapping := do
  let precision ← timePrecision mode size
  return ⟨← LogicalType.checkedTime precision, .time precision, .time precision, .full⟩

def timestampWrite (mode : Mode) (precision : Nat) : WriteStrategy :=
  match mode with
  | .mysql =>
    if precision ≤ maxShortPrecision then .timestamp precision
    else .longTimestamp Mode.mysql.maxPrecision
  | .oracle =>
    if precision ≤ maxShortPrecision then .formattedTimestamp precision
    else .formattedLongTimestamp precision

def ofTimestamp (mode : Mode) (size scale : Int) : Except Error ColumnMapping := do
  let precision ← timestampPrecision mode size scale
  let read : ReadStrategy :=
    if precision ≤ maxShortPrecision then .timestamp precision else .longTimestamp precision
  return ⟨← LogicalType.checkedTimestamp precision, read, timestampWrite mode precision, .full⟩

def ofZonedTimestamp (mode : Mode) (size scale : Int) : Except Error ColumnMapping := do
  let precision ← timestampPrecision mode size scale
  let type ← LogicalType.checkedTimestampWithTimeZone precision
  if precision ≤ maxShortZonedPrecision then
    return ⟨type, .shortZonedTimestamp, .shortZonedTimestamp, .full⟩
  else return ⟨type, .longZonedTimestamp, .longZonedTimestamp, .full⟩

/-- Numbers with a declared precision. Digits before the point that a negative scale stands for count
towards the width. A precision of zero leaves everything open. -/
def ofNumeric (session : Session) (descriptor : Descriptor) : Except Error (Option ColumnMapping) := do
  let precision ← descriptor.requiredSize
  if precision = 0 then
    if session.allowsOverflow then
      return some (ofDecimal maxDecimalPrecision session.defaultScale (some session.roundingMode))
    else return none
  let digits ← descriptor.requiredDigits
  let width := precision + max (-digits) 0
  let scale := max digits 0
  if width ≤ maxDecimalPrecision then
    if width ≤ 0 ∨ width < scale then
      throw (.metadataContract (.decimal width scale descriptor))
    return some (ofDecimal width.toNat scale.toNat none)
  else if session.allowsOverflow then
    if maxDecimalPrecision < scale then
      throw (.metadataContract (.decimal maxDecimalPrecision scale descriptor))
    return some (ofDecimal maxDecimalPrecision scale.toNat (some session.roundingMode))
  else return none

def ofTypeCode (mode : Mode) (session : Session) (descriptor : Descriptor) :
    Except Error (Option ColumnMapping) := do
  match descriptor.driverType with
  | .bit => return some ⟨.boolean, .boolean, .boolean, .full⟩
  | .tinyInt => return some ofTinyInt
  | .smallInt => return some ofSmallInt
  | .integer => return some ofInteger
  | .bigInt => return some ofBigInt
  | .real | .binaryFloat => return some ⟨.real, .real, .real, .disabled⟩
  | .double | .binaryDouble => return some ⟨.double, .double, .double, .full⟩
  | .numeric | .decimal => ofNumeric session descriptor
  | .char | .nationalChar => return some (ofChar (← descriptor.requiredSize))
  | .varchar | .nationalVarchar | .longVarchar => return some (ofVarchar (← descriptor.requiredSize))
  | .clob => return some ⟨.varchar none, .varchar, .varchar, .disabled⟩
  | .binary | .varbinary | .longVarbinary | .blob =>
    return some ⟨.varbinary, .varbinary, .varbinary, .disabled⟩
  | .time => return some (← ofTime mode (← descriptor.requiredSize))
  | .timestamp =>
    let size ← descriptor.requiredSize
    let scale := descriptor.decimalDigits.getD 0
    match mode with
    | .mysql => return some (← ofZonedTimestamp mode size scale)
    | .oracle => return some (← ofTimestamp mode size scale)
  | _ => return none

/-- The size of an enumeration or a set where the driver reports none. -/
def enumerationSize : Int := 256

def unsignedBigIntPrecision : Nat := 20

/-- The rule of a type name, if it has one; `folded` is in lower case. -/
def ofTypeName? (mode : Mode) (descriptor : Descriptor) (folded : String) :
    Option (Except Error ColumnMapping) :=
  match folded with
  | "tinyint unsigned" => some (.ok ofSmallInt)
  | "smallint unsigned" => some (.ok ofInteger)
  | "year" => some (.ok ofInteger)
  | "int unsigned" => some (.ok ofBigInt)
  | "bigint unsigned" => some (.ok (ofDecimal unsignedBigIntPrecision 0 none))
  | "date" => some (.ok (ofDate mode))
  | "json" => some (.ok ⟨.json, .json, .varchar, .disabled⟩)
  | "enum" => some (.ok (ofVarchar (descriptor.columnSize.getD enumerationSize)))
  | "set" => some (.ok (ofVarchar (descriptor.columnSize.getD enumerationSize)))
  | "datetime" => some do
    ofTimestamp mode (← descriptor.requiredSize) (descriptor.decimalDigits.getD 0)
  | _ => none

/-- The mapping of a column; `forced` holds the type codes that are always read as text. -/
def resolve (mode : Mode) (session : Session) (forced : List Int) (descriptor : Descriptor) :
    Except Error (Option ColumnMapping) := do
  let name ← descriptor.requiredTypeName
  if forced.contains descriptor.typeCode then return some forcedVarchar
  match ofTypeName? mode descriptor (Text.lowered name) with
  | some mapping => return some (← mapping)
  | none => ofTypeCode mode session descriptor

end ColumnMapping

end TypeBridge
