import TypeBridge.Duration
import TypeBridge.Error
import TypeBridge.Json.Writer
import TypeBridge.Session

/-!
The configuration of a connector: its rules, the type codes it forces to text, and the properties it
hands to the driver.
-/
namespace TypeBridge

structure Config where
  connectionUrl : String
  mode : Mode
  autoReconnect : Bool
  maxReconnects : Nat
  connectionTimeout : Duration
  useInformationSchema : Bool
  remarksReporting : Bool
  forcedTypes : List String
  session : Session

namespace Config

open TypeBridge.Text

def ofUrl (connectionUrl : String) : Config :=
  ⟨connectionUrl, .mysql, true, 3, .ofSeconds 10 (by decide), true, false, [], .default⟩

/-- The code of an entry, which is a code or the name of a type. -/
def forcedCode (entry : String) : Except Error Int :=
  let trimmed := trim entry.toList
  match readInteger? (twoTo 31) trimmed with
  | some code => .ok code
  | none =>
    match DriverType.ofName? (String.ofList trimmed) with
    | some type => .ok type.code
    | none => .error (.invalidConfiguration (.unknownForcedType entry))

def insertCode (code : Int) : List Int → List Int
  | [] => [code]
  | other :: rest =>
    if code < other then code :: other :: rest
    else if code = other then other :: rest
    else other :: insertCode code rest

/-- The codes of all entries, each once, in increasing order. -/
def forcedCodes (config : Config) : Except Error (List Int) := do
  return (← config.forcedTypes.mapM forcedCode).foldl (fun codes code => insertCode code codes) []

/-- The first rule that is broken decides. -/
def validate (config : Config) : Except Error Unit := do
  if (trim config.connectionUrl.toList).isEmpty then throw (.invalidConfiguration .missingUrl)
  if config.maxReconnects < 1 then throw (.invalidConfiguration .noReconnects)
  if LogicalType.maxDecimalPrecision < config.session.defaultScale then
    throw (.invalidConfiguration (.scaleOutOfRange config.session.defaultScale))
  let _ ← config.forcedCodes

def truthText (value : Bool) : String := if value then "true" else "false"

def connectionProperties (config : Config) : List (String × String) :=
  [("useInformationSchema", truthText config.useInformationSchema),
    ("useUnicode", "true"),
    ("characterEncoding", "utf8"),
    ("tinyInt1isBit", "false"),
    ("rewriteBatchedStatements", "true"),
    ("connectionTimeZone", "LOCAL"),
    ("forceConnectionTimeZoneToSession", "true")] ++
  (if config.autoReconnect then
    [("autoReconnect", "true"), ("maxReconnects", numberText config.maxReconnects)]
  else []) ++
  [("connectTimeout", numberText config.connectionTimeout.millis)] ++
  (if config.remarksReporting then [("remarksReporting", "true")] else [])

def sessionJson (session : Session) : Json :=
  .object [("decimal-mapping", .string session.decimalMapping.name),
    ("decimal-default-scale", .integer session.defaultScale),
    ("decimal-rounding-mode", .string session.roundingMode.name)]

def toJson (config : Config) : Json :=
  .object [("connection-url", .string config.connectionUrl),
    ("compatible-mode", .string config.mode.name),
    ("auto-reconnect", .boolean config.autoReconnect),
    ("max-reconnects", .integer config.maxReconnects),
    ("connection-timeout", .string config.connectionTimeout.format),
    ("use-information-schema", .boolean config.useInformationSchema),
    ("remarks-reporting", .object [("enabled", .boolean config.remarksReporting)]),
    ("jdbc-types-mapped-to-varchar", .array (config.forcedTypes.map .string)),
    ("session", sessionJson config.session)]

end Config

end TypeBridge
