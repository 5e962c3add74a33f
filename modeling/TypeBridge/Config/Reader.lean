import TypeBridge.Config.Basic
import TypeBridge.Yaml.Node

/-!
Reading a configuration from a YAML document. Unknown keys are passed over, a known key must not be
repeated, and each setting takes only scalars of its own kind. The rules of the configuration are checked
after all of it has been read.
-/
namespace TypeBridge.Config

open TypeBridge.Text
open TypeBridge.Yaml (Node)

def nodeText? : Node → Option String
  | .scalar text _ _ => some text
  | _ => none

/-- The text of a scalar that may stand for a value of a kind other than text: a plain one, or a literal block
with the tag of that kind. -/
def nodeWord? (kind : String) : Node → Option String
  | .scalar text .plain _ => some text
  | .scalar text .literal (some tag) => if tag = "tag:yaml.org,2002:" ++ kind then some text else none
  | _ => none

def nodeBool? (node : Node) : Option Bool := do
  let word ← nodeWord? "bool" node
  if ["true", "True", "TRUE"].contains word then some true
  else if ["false", "False", "FALSE"].contains word then some false
  else none

def digitsToBase? (base : Nat) (text : List Char) : Option Nat :=
  if text.isEmpty then none
  else text.foldlM (fun value digit =>
    (Json.hexValue? digit).bind fun place =>
      if place < base then some (base * value + place) else none) 0

/-- A plain number from zero, decimal or with a mark for another base. A decimal number of several digits
does not start with zero. -/
def plainNatural? (text : List Char) : Option Nat :=
  let unsigned := match text with
    | '+' :: rest => rest
    | text => text
  match unsigned with
  | '0' :: 'x' :: digits => digitsToBase? 16 digits
  | '0' :: 'o' :: digits => digitsToBase? 8 digits
  | '0' :: 'b' :: digits => digitsToBase? 2 digits
  | '0' :: _ :: _ => none
  | digits => readDigits? digits

def nodeNatural? (node : Node) : Option Nat := do
  (plainNatural? (← nodeWord? "int" node).toList).filter (· < twoTo 32)

def isNullWord (text : String) : Bool := ["~", "null", "Null", "NULL"].contains text

/-- A plain scalar that stands for no value selects the default mode. With the tag of no value it has to be
a word for it, and with another tag it is text. -/
def nodeMode? : Node → Option Mode
  | .scalar text .plain none =>
    if text.isEmpty || isNullWord text then some .mysql else Mode.ofText? text
  | .scalar text .plain (some "tag:yaml.org,2002:null") => if isNullWord text then some .mysql else none
  | .scalar text _ _ => Mode.ofText? text
  | _ => none

/-- The name of one of several choices: the text of a scalar, or a tag of the document's own in front of a
scalar that stands for no value. -/
def nodeChoice? : Node → Option String
  | .scalar text style tag =>
    match tag.map (·.toList) with
    | some ('!' :: name) =>
      if style = .plain && (text.isEmpty || isNullWord text) then some (String.ofList name) else none
    | _ => some text
  | _ => none

def nodeDuration? (node : Node) : Option Duration := do
  (Duration.parse (← nodeText? node)).toOption

/-- The items of a list, none when the value is left out. -/
def nodeTexts? (root : Node) : Node → Option (List String)
  | .list items => items.mapM fun item => nodeText? (root.target item)
  | .scalar "" .plain _ => some []
  | _ => none

/-- The entries of a map by their keys, none when the value is left out. -/
def nodeEntries? (root : Node) : Node → Option (List (String × Node))
  | .map entries => entries.mapM fun (key, value) =>
    (nodeText? (root.target key)).map (·, root.target value)
  | .scalar "" .plain _ => some []
  | _ => none

/-- The value of a key that occurs once at most; `missing` when it does not occur. -/
def setting? {α : Type} (entries : List (String × Node)) (key : String) (missing : α)
    (value? : Node → Option α) : Option α :=
  match entries.filter (·.1 == key) with
  | [] => some missing
  | [(_, node)] => value? node
  | _ => none

def nodeRemarks? (root node : Node) : Option Bool := do
  setting? (← nodeEntries? root node) "enabled" false nodeBool?

def nodeSession? (root node : Node) : Option Session := do
  let entries ← nodeEntries? root node
  let default := Session.default
  let mapping ← setting? entries "decimal-mapping" default.decimalMapping fun node =>
    (nodeChoice? node).bind DecimalMapping.ofName?
  let scale ← setting? entries "decimal-default-scale" default.defaultScale nodeNatural?
  let rounding ← setting? entries "decimal-rounding-mode" default.roundingMode fun node =>
    (nodeChoice? node).bind RoundingMode.ofName?
  return ⟨mapping, scale, rounding⟩

def ofRoot? (root : Node) : Option Config := do
  let entries ← nodeEntries? root (root.target root)
  let url ← (← setting? entries "connection-url" none fun node => (nodeText? node).map some)
  let default := ofUrl url
  let mode ← setting? entries "compatible-mode" default.mode nodeMode?
  let autoReconnect ← setting? entries "auto-reconnect" default.autoReconnect nodeBool?
  let maxReconnects ← setting? entries "max-reconnects" default.maxReconnects nodeNatural?
  let timeout ← setting? entries "connection-timeout" default.connectionTimeout nodeDuration?
  let information ←
    setting? entries "use-information-schema" default.useInformationSchema nodeBool?
  let remarks ←
    setting? entries "remarks-reporting" default.remarksReporting (nodeRemarks? root)
  let forced ←
    setting? entries "jdbc-types-mapped-to-varchar" default.forcedTypes (nodeTexts? root)
  let session ← setting? entries "session" default.session (nodeSession? root)
  return ⟨url, mode, autoReconnect, maxReconnects, timeout, information, remarks, forced, session⟩

/-- A configuration that keeps its rules. -/
def parse (text : String) : Except Error Config := do
  match Node.ofText? text.toList with
  | none => throw (.yaml "the document is malformed")
  | some root =>
    match ofRoot? root with
    | none => throw (.yaml "the document is not a configuration")
    | some config => do
      config.validate
      return config

end TypeBridge.Config
