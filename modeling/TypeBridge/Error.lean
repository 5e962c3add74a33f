import TypeBridge.Calendar.Text
import TypeBridge.Decimal.Fit
import TypeBridge.DriverType
import TypeBridge.Json.Reader
import TypeBridge.LogicalType.Basic
import TypeBridge.Mode
import TypeBridge.Text.Quoted

/-!
Everything that can go wrong, by cause, and the wording of each cause. An error that comes back from a
connection carries its own wording, which is kept as it was stated.
-/
namespace TypeBridge

open TypeBridge.Text

/-- A request that no rule of the active mode covers. -/
inductive Unsupported where
  | columnType (type : LogicalType)
  | columnComment
  | tableProperties (names : List String)
  | topNOnText
  | topN
  | topNGuarantee
  | creatingSchemas
  | droppingSchemas
  | renamingSchemas
  | renamingAcrossSchemas
  | settingColumnTypes
  | stated (message : String)
  deriving DecidableEq

def Unsupported.message : Unsupported → String
  | .columnType type => "Unsupported column type: " ++ type.text
  | .columnComment => "This connector does not support creating tables with column comment"
  | .tableProperties names => "Unsupported table properties: " ++ ", ".intercalate names
  | .topNOnText =>
    "This connector does not support Top-N pushdown on char or varchar columns"
  | .topN => "This connector does not support Top-N pushdown on Oracle mode"
  | .topNGuarantee => "isTopNGuaranteed is not implemented on Oracle mode"
  | .creatingSchemas => "This connector does not support creating schemas on Oracle mode"
  | .droppingSchemas => "This connector does not support dropping schemas on Oracle mode"
  | .renamingSchemas => "This connector does not support renaming schemas"
  | .renamingAcrossSchemas =>
    "This connector does not support renaming tables across schemas"
  | .settingColumnTypes => "This connector does not support setting column types"
  | .stated message => message

inductive Misconfiguration where
  | unknownMode (text : String)
  | missingUrl
  | noReconnects
  | scaleOutOfRange (scale : Nat)
  | unknownForcedType (entry : String)
  | checkWithoutConfig
  | unknownVerbosity (folded : String)
  | unknownLogFormat (text : String)
  | stated (message : String)
  deriving DecidableEq

def Misconfiguration.message : Misconfiguration → String
  | .unknownMode text => "Unsupported compatible mode: " ++ text
  | .missingUrl => "connection-url is required"
  | .noReconnects => "max-reconnects must be at least 1"
  | .scaleOutOfRange scale =>
    "session.decimal-default-scale must be in range " ++
      s!"[0, {numberText LogicalType.maxDecimalPrecision}], got {numberText scale}"
  | .unknownForcedType entry => s!"jdbc-types-mapped-to-varchar: unknown type '{entry}'"
  | .checkWithoutConfig => "check-config requires --config"
  | .unknownVerbosity folded => "Unknown verbosity: " ++ folded
  | .unknownLogFormat text => "Unknown log format: " ++ text
  | .stated message => message

/-- Column metadata that contradicts itself, or a value that breaks what the metadata promised. -/
inductive ContractBreach where
  | missingTypeName (descriptor : Descriptor)
  | missingSize (descriptor : Descriptor)
  | missingDigits (descriptor : Descriptor)
  | temporalPrecision (precision : Int) (mode : Mode)
  | decimal (width scale : Int) (descriptor : Descriptor)
  | fractionalSecond (micros : Int)
  | stated (message : String)
  deriving DecidableEq

def ContractBreach.message : ContractBreach → String
  | .missingTypeName descriptor => "Type name is missing: " ++ descriptor.text
  | .missingSize descriptor => "Column size not present: " ++ descriptor.text
  | .missingDigits descriptor => "Decimal digits not present: " ++ descriptor.text
  | .temporalPrecision precision mode =>
    s!"Unexpected timestamp precision {integerText precision} " ++
      s!"(allowed 1..={numberText mode.maxPrecision} in {mode.name} mode)"
  | .decimal width scale descriptor =>
    s!"Invalid decimal({integerText width},{integerText scale}) for column type {descriptor.text}"
  | .fractionalSecond micros => s!"Micros of second must be zero: '{integerText micros}'"
  | .stated message => message

/-- Days, times and instants that the calendar or a word cannot hold. -/
inductive RangeFault where
  | epochDay (day : Int)
  | timeOfDay (picos : Int)
  | timestamp (value : DateTime)
  | epochNano (nanos : Int)
  | epochMilli (millis : Int)
  deriving DecidableEq

def RangeFault.message : RangeFault → String
  | .epochDay day => "Epoch day out of range: " ++ integerText day
  | .timeOfDay picos => "Time of day (picoseconds) out of range: " ++ integerText picos
  | .timestamp value => "Timestamp out of range: " ++ value.shown
  | .epochNano nanos => "Timestamp (nanoseconds) out of range: " ++ integerText nanos
  | .epochMilli millis => "Instant (milliseconds) out of range: " ++ integerText millis

/-- A value that the type or name it is meant for cannot take. -/
inductive BadValue where
  | emptyName
  | nulInName (name : String)
  | longName (name : String)
  | unknownType (text : String)
  | decimalPrecision (precision : Nat)
  | decimalScale (precision scale : Nat)
  | charLength (length : Nat)
  | temporalPrecision (type : String) (precision : Nat)
  | unreadable (strategy kind : String)
  | unwritable (strategy kind : String)
  | integerRange (type : String) (value : Int)
  | decimalText (text : String) (fault : Decimal.ReadFault)
  | decimalFit (value : Decimal) (precision scale : Nat) (fault : Decimal.FitFault)
  | jsonText (fault : Json.Fault)
  | range (fault : RangeFault)
  | noColumns (table : String)
  | stated (message : String)
  deriving DecidableEq

def maxNameBytes : Nat := 128

def fitMessage (value : Decimal) (precision scale : Nat) : Decimal.FitFault → String
  | .roundingNecessary =>
    s!"Rounding necessary to store {value.text} at scale {numberText scale}"
  | .scaleOutOfReach =>
    s!"{value.text} cannot be represented at scale {numberText scale} " ++
      "(at most 28 significant digits)"
  | .tooWide =>
    s!"Decimal overflow: {value.text} does not fit " ++
      s!"decimal({numberText precision},{numberText scale})"

def BadValue.message : BadValue → String
  | .emptyName => "Identifier cannot be empty"
  | .nulInName name => "Identifier contains null byte: " ++ quoted name
  | .longName name =>
    s!"Identifier exceeds maximum length of {numberText maxNameBytes} bytes " ++
      s!"(got {numberText name.utf8ByteSize} bytes): {quoted name}"
  | .unknownType text => "Unknown type: " ++ text
  | .decimalPrecision precision =>
    s!"DECIMAL precision must be in range [1, {numberText LogicalType.maxDecimalPrecision}]: " ++
      numberText precision
  | .decimalScale precision scale =>
    s!"DECIMAL scale must be in range [0, precision ({numberText precision})]: " ++
      numberText scale
  | .charLength length =>
    s!"CHAR length must be in range [0, {numberText LogicalType.maxCharLength}]: " ++
      numberText length
  | .temporalPrecision type precision =>
    s!"{type} precision must be in range [0, {numberText LogicalType.maxTemporalPrecision}]: " ++
      numberText precision
  | .unreadable strategy kind => s!"{strategy} read cannot decode a {kind} value"
  | .unwritable strategy kind => s!"{strategy} write cannot encode a {kind} value"
  | .integerRange type value => s!"Value out of range for {type}: {integerText value}"
  | .decimalText text fault => s!"Cannot read '{text}' as decimal: {fault.message}"
  | .decimalFit value precision scale fault => fitMessage value precision scale fault
  | .jsonText fault => "Invalid JSON value: " ++ fault.message
  | .range fault => fault.message
  | .noColumns table => s!"Table {table} has no columns"
  | .stated message => message

inductive Error where
  | invalidConfiguration (cause : Misconfiguration)
  | notSupported (cause : Unsupported)
  | schemaNotEmpty (schema : String)
  | metadataContract (cause : ContractBreach)
  | invalidValue (cause : BadValue)
  | backend (message context : String)
  | io (cause : String)
  | yaml (cause : String)
  | json (fault : Json.Fault)
  deriving DecidableEq

namespace Error

def message : Error → String
  | invalidConfiguration cause => "Invalid configuration: " ++ cause.message
  | notSupported cause => cause.message
  | schemaNotEmpty schema => s!"Cannot drop non-empty schema '{schema}'"
  | metadataContract cause => "Metadata contract violation: " ++ cause.message
  | invalidValue cause => "Invalid value: " ++ cause.message
  | backend message context => s!"Backend error: {message}\n  Context: {context}"
  | io cause => "IO error: " ++ cause
  | yaml cause => "YAML error: " ++ cause
  | json fault => "JSON error: " ++ fault.message

def exitCode : Error → Nat
  | invalidConfiguration _ | yaml _ => 1
  | notSupported _ => 2
  | schemaNotEmpty _ => 3
  | metadataContract _ => 4
  | invalidValue _ => 5
  | backend _ _ => 6
  | io _ => 7
  | json _ => 8

/-- What an error was caused by outside this library, the nearest cause first. -/
def causes : Error → List String
  | io cause | yaml cause => [cause]
  | json fault => [fault.message]
  | _ => []

/-- A failure of a connection, reported for the operation that ran. A backend error keeps its message. -/
def inContext (context : String) : Error → Error
  | backend message _ => backend message context
  | other => backend other.message context

def listCauses : Nat → List String → String
  | _, [] => ""
  | number, cause :: rest =>
    s!"\nCaused by:\n  {numberText number}: {cause}" ++ listCauses (number + 1) rest

def detailed (error : Error) : String := s!"Error: {error.message}\n" ++ listCauses 1 error.causes

end Error

end TypeBridge
