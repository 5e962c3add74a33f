import TypeBridge.Column.Mapping
import TypeBridge.Column.WriteMapping
import TypeBridge.Config.Basic
import TypeBridge.Pushdown.Aggregate

/-!
A connector: one mode, the settings of its session, and the type codes it reads as text. Its answers
about types and statements depend on nothing else.
-/
namespace TypeBridge

structure Connector where
  mode : Mode
  session : Session
  forced : List Int

structure RemoteTable where
  catalog : Option String
  schema : Option String
  table : String
  deriving DecidableEq

def RemoteTable.home? (table : RemoteTable) : Option String :=
  (table.schema.filter (!·.isEmpty)).or (table.catalog.filter (!·.isEmpty))

structure ColumnDefinition where
  name : String
  type : LogicalType
  nullable : Bool
  comment : Option String

structure TableDefinition where
  schema : Option String
  name : String
  columns : List ColumnDefinition
  comment : Option String
  properties : List (String × String)

namespace Connector

def ofMode (mode : Mode) : Connector := ⟨mode, .default, []⟩

/-- The connector of a configuration that keeps its rules. -/
def ofConfig (config : Config) : Except Error Connector := do
  config.validate
  return ⟨config.mode, config.session, ← config.forcedCodes⟩

/-- Rows fetched at once: a fixed number of cells, and a least number of rows. -/
def fetchSize (columns : Nat) : Nat := if columns = 0 then 1000 else max (100000 / columns) 1000

def columnMapping (connector : Connector) (descriptor : Descriptor) :
    Except Error (Option ColumnMapping) :=
  ColumnMapping.resolve connector.mode connector.session connector.forced descriptor

def columnMappingIn (connector : Connector) (session : Session) (descriptor : Descriptor) :
    Except Error (Option ColumnMapping) :=
  ColumnMapping.resolve connector.mode session connector.forced descriptor

def logicalType (connector : Connector) (descriptor : Descriptor) :
    Except Error (Option LogicalType) := do
  return (← connector.columnMapping descriptor).map (·.logicalType)

def writeMapping (connector : Connector) (type : LogicalType) : Except Error WriteMapping :=
  WriteMapping.ofType connector.mode type

def remoteName (connector : Connector) (name : String) : String := Sql.remoteName connector.mode name

def quoteRemote (connector : Connector) (name : String) : Except Error String :=
  Sql.quoteName connector.mode (connector.remoteName name)

def quotedTable (connector : Connector) (catalog schema : Option String) (table : String) :
    Except Error String :=
  Sql.qualifiedName connector.mode (catalog.map connector.remoteName) (schema.map connector.remoteName)
    (connector.remoteName table)

def quotedRemoteTable (connector : Connector) (table : RemoteTable) : Except Error String :=
  Sql.qualifiedName connector.mode table.catalog table.schema table.table

def columnSql (connector : Connector) (column : ColumnDefinition) : Except Error String := do
  if column.comment.isSome then throw (.notSupported .columnComment)
  let name ← connector.quoteRemote column.name
  let type := (← connector.writeMapping column.type).dataType.sql
  let clause := Sql.nullClause connector.mode column.nullable
  return if clause.isEmpty then s!"{name} {type}" else s!"{name} {type} {clause}"

/-- A name put into its place among names in increasing order, once. -/
def insertName (name : String) : List String → List String
  | [] => [name]
  | other :: rest =>
    if name < other then name :: other :: rest
    else if name = other then other :: rest
    else other :: insertName name rest

def propertyNames (table : TableDefinition) : List String :=
  table.properties.foldl (fun names (name, _) => insertName name names) []

def createTable (connector : Connector) (table : TableDefinition) : Except Error (List String) := do
  if !table.properties.isEmpty then
    throw (.notSupported (.tableProperties (propertyNames table)))
  if table.columns.isEmpty then throw (.invalidValue (.noColumns table.name))
  let quoted ← connector.quotedTable none table.schema table.name
  let columns ← table.columns.mapM connector.columnSql
  let create := s!"CREATE TABLE {quoted} (" ++ ", ".intercalate columns ++ ")"
  match table.comment with
  | none => return [create]
  | some comment => return [create, Sql.tableComment connector.mode quoted (some comment)]

/-- A query with an order and a limit; text does not order as the engine orders it. -/
def topN (connector : Connector) (sql : String) (items : List SortItem) (count : Nat) :
    Except Error String :=
  if connector.mode = .mysql ∧ !Sql.supportsTopN connector.mode items then
    .error (.notSupported .topNOnText)
  else Sql.topN connector.mode sql items count

def predicate (connector : Connector) (expression : Expression) : Except Error (Option Fragment) :=
  Predicate.rewrite connector.mode expression

def aggregate (connector : Connector) (call : AggregateCall) :
    Except Error (Option AggregateExpression) :=
  call.rewrite connector.mode

end Connector

end TypeBridge
