import TypeBridge.CommandLine.Options

/-!
What a command line asks for. Settings for all commands stand before the command, its own options and
words after it.
-/
namespace TypeBridge.CommandLine

open TypeBridge.Text

inductive Inquiry where
  | read (typeCode : Int) (typeName : Option String) (columnSize decimalDigits : Option Int)
  | write (type : String)
  | limit (count : Nat) (sql : String)
  deriving DecidableEq

inductive Command where
  | inquire (inquiry : Inquiry)
  | checkConfig
  deriving DecidableEq

structure Request where
  configPath : Option String
  mode : Option String
  json : Bool
  logFormat : String
  verbosity : String
  command : Command

def helpOption : OptionSpec := ⟨"help", some 'h', .help⟩

def settings : List OptionSpec :=
  [⟨"config", some 'c', .value .path⟩, ⟨"mode", none, .value .text⟩, ⟨"output-json", none, .flag⟩,
    ⟨"log-format", none, .value .text⟩, ⟨"verbosity", none, .value .text⟩,
    ⟨"version", some 'V', .version⟩, helpOption]

def readOptions : List OptionSpec :=
  [⟨"type-code", none, .value .signed⟩, ⟨"type-name", none, .value .text⟩,
    ⟨"column-size", none, .value .signed⟩, ⟨"decimal-digits", none, .value .signed⟩, helpOption]

def limitOptions : List OptionSpec := [⟨"limit", none, .value .natural⟩, helpOption]

def Arguments.number? (arguments : Arguments) (name : String) : Option Int :=
  (arguments.option? name).bind fun value => readInteger? (twoTo 31) value.toList

def misused {α : Type} : Except Stop α := .error .misuse

def readCommand (tokens : List String) : Except Stop Command := do
  let arguments ← Arguments.read readOptions false none .empty tokens
  match arguments.words, arguments.number? "type-code" with
  | [], some typeCode =>
    return .inquire (.read typeCode (arguments.option? "type-name")
      (arguments.number? "column-size") (arguments.number? "decimal-digits"))
  | _, _ => misused

def writeCommand (tokens : List String) : Except Stop Command := do
  let arguments ← Arguments.read [helpOption] false none .empty tokens
  match arguments.words with
  | [type] => return .inquire (.write type)
  | _ => misused

def limitCommand (tokens : List String) : Except Stop Command := do
  let arguments ← Arguments.read limitOptions false none .empty tokens
  let count := (arguments.option? "limit").bind fun value => readNatural? (twoTo 64) value.toList
  match arguments.words, count with
  | [sql], some count => return .inquire (.limit count sql)
  | _, _ => misused

def checkConfigCommand (tokens : List String) : Except Stop Command := do
  let arguments ← Arguments.read [helpOption] false none .empty tokens
  if arguments.words.isEmpty then return .checkConfig else misused

/-- The commands by name; asking for help names at most one of them. -/
def commandOf : List String → Except Stop Command
  | "read" :: rest => readCommand rest
  | "write" :: rest => writeCommand rest
  | "limit" :: rest => limitCommand rest
  | "check-config" :: rest => checkConfigCommand rest
  | ["help"] => .error .help
  | ["help", name] =>
    if ["read", "write", "limit", "check-config", "help"].contains name then .error .help else misused
  | _ => misused

def Request.parse (tokens : List String) : Except Stop Request := do
  let arguments ← Arguments.read settings true none .empty tokens
  let command ← commandOf arguments.left
  return ⟨arguments.option? "config", arguments.option? "mode", arguments.isGiven "output-json",
    (arguments.option? "log-format").getD "text", (arguments.option? "verbosity").getD "info", command⟩

def configPath? : Except Stop Request → Option String
  | .ok request => request.configPath
  | .error _ => none

end TypeBridge.CommandLine
