import TypeBridge.CommandLine.Request
import TypeBridge.Config.Reader
import TypeBridge.Connector.Basic
import TypeBridge.LogicalType.Parse

/-!
What is answered to a request. Every setting is checked before the command runs, and a command prints only
once it has succeeded.
-/
namespace TypeBridge.CommandLine

structure Report where
  lines : List String
  json : Json

def Report.text (report : Report) (asJson : Bool) : String :=
  if asJson then report.json.pretty ++ "\n" else String.join (report.lines.map (· ++ "\n"))

/-- Without a name the column has the name of its type code, in lower case. -/
def describeColumn (typeCode : Int) (typeName : Option String) (columnSize decimalDigits : Option Int) :
    Descriptor :=
  let type := DriverType.ofCode typeCode
  let name := typeName.getD ((type.name?.map Text.lowered).getD (Text.integerText typeCode))
  ⟨typeCode, some name, columnSize, decimalDigits⟩

def columnReport (mode : Mode) : Option ColumnMapping → Report
  | some mapping =>
    let type := mapping.logicalType.text
    ⟨["Logical type: " ++ type, "Read:         " ++ mapping.read.name,
        "Write:        " ++ mapping.write.name, "Pushdown:     " ++ mapping.pushdown.name],
      .object [("mode", .string mode.name), ("logical_type", .string type),
        ("read", .string mapping.read.name), ("write", .string mapping.write.name),
        ("pushdown", .string mapping.pushdown.name)]⟩
  | none =>
    ⟨["unsupported"],
      .object [("mode", .string mode.name), ("logical_type", .null), ("read", .null), ("write", .null),
        ("pushdown", .null)]⟩

def writeReport (mode : Mode) (type : LogicalType) (mapping : WriteMapping) : Report :=
  ⟨["Logical type:    " ++ type.text, "Data type:       " ++ mapping.dataType.sql,
      "Write:           " ++ mapping.write.name,
      "Bind expression: " ++ mapping.write.bindExpression],
    .object [("mode", .string mode.name), ("logical_type", .string type.text),
      ("data_type", .string mapping.dataType.sql), ("write", .string mapping.write.name),
      ("bind_expression", .string mapping.write.bindExpression)]⟩

def limitReport (mode : Mode) (sql : String) : Report :=
  ⟨[sql], .object [("mode", .string mode.name), ("sql", .string sql)]⟩

def configReport (config : Config) : Report :=
  let properties := config.connectionProperties
  ⟨s!"Configuration is valid ({config.mode.name} mode)" ::
      properties.map fun (key, value) => key ++ "=" ++ value,
    (Json.object [("valid", .boolean true), ("compatible_mode", .string config.mode.name),
      ("connection_properties",
        .object (properties.map fun (key, value) => (key, Json.string value)))]).canonical⟩

def answerInquiry (connector : Connector) : Inquiry → Except Error Report
  | .read typeCode typeName columnSize decimalDigits => do
    let mapping ←
      connector.columnMapping (describeColumn typeCode typeName columnSize decimalDigits)
    return columnReport connector.mode mapping
  | .write text => do
    let type ← LogicalType.parse text
    return writeReport connector.mode type (← connector.writeMapping type)
  | .limit count sql => .ok (limitReport connector.mode (Sql.limit connector.mode sql count))

def checkLogging (verbosity logFormat : String) : Except Error Unit :=
  let folded := Text.lowered verbosity
  if ["debug", "info", "warn", "error"].contains folded then
    if ["text", "json"].contains logFormat then .ok ()
    else .error (.invalidConfiguration (.unknownLogFormat logFormat))
  else .error (.invalidConfiguration (.unknownVerbosity folded))

def readMode (text : String) : Except Error Mode :=
  match Mode.ofText? text with
  | some mode => .ok mode
  | none => .error (.invalidConfiguration (.unknownMode text))

def connectorFor (config : Option Config) (mode : Option String) : Except Error Connector := do
  let mode ← mode.mapM readMode
  match config with
  | some config => Connector.ofConfig { config with mode := mode.getD config.mode }
  | none => return .ofMode (mode.getD .mysql)

/-- The answer to a request; `file` has the text of the configuration, or why it could not be read. -/
def Request.answer (request : Request) (file : Option (Except String String)) :
    Except Error Report := do
  checkLogging request.verbosity request.logFormat
  let config ← file.mapM fun
    | .ok text => Config.parse text
    | .error reason => .error (.io reason)
  match request.command, config with
  | .checkConfig, some config => do
    config.validate
    return configReport config
  | .checkConfig, none => throw (.invalidConfiguration .checkWithoutConfig)
  | .inquire inquiry, config => answerInquiry (← connectorFor config request.mode) inquiry

/-- How a run ends: with text on the standard output, for misuse, or with an error to report. -/
inductive Outcome where
  | printed (text : String)
  | misused
  | failed (error : Error)

def versionText : String := "oceanbase-typemap 0.1.0\n"

def usageText : String :=
  "Inspect OceanBase type mappings and SQL fragments\n\n" ++
    "Usage: oceanbase-typemap [OPTIONS] <COMMAND>\n\n" ++
    "Commands:\n" ++
    "  read --type-code <CODE> [--type-name <NAME>] [--column-size <SIZE>] [--decimal-digits <DIGITS>]\n" ++
    "  write <LOGICAL_TYPE>\n" ++
    "  limit --limit <COUNT> <SQL>\n" ++
    "  check-config\n\n" ++
    "Options:\n" ++
    "  -c, --config <FILE>\n" ++
    "  --mode <MODE>\n" ++
    "  --output-json\n" ++
    "  --log-format <FORMAT>\n" ++
    "  --verbosity <LEVEL>\n"

def outcome (request : Except Stop Request) (file : Option (Except String String)) : Outcome :=
  match request with
  | .error .version => .printed versionText
  | .error .help => .printed usageText
  | .error .misuse => .misused
  | .ok request =>
    match request.answer file with
    | .ok report => .printed (report.text request.json)
    | .error error => .failed error

def Outcome.status : Outcome → Nat
  | printed _ => 0
  | misused => 2
  | failed error => error.exitCode

end TypeBridge.CommandLine
