import TypeBridge.Connector.Basic
import TypeBridge.Connector.Connection

/-!
Operations on the catalog of a backend: listing schemas and tables, and the statements that create, drop,
rename and comment. Each statement is run at most once, after everything that can fail before it.
-/
namespace TypeBridge.Connector

/-- The names that `seen` lacks, each where it first occurs. -/
def distinctAfter (seen : List String) : List String → List String
  | [] => []
  | name :: rest =>
    if seen.contains name then distinctAfter seen rest
    else name :: distinctAfter (name :: seen) rest

def visibleSchemas (connector : Connector) (names : List String) : List String :=
  distinctAfter [] (names.filter (Sql.showsSchema connector.mode))

/-- The schemas that are not internal. One mode reports them as catalogs. -/
def listSchemas (connector : Connector) : Operation (List String) := do
  let names ← match connector.mode with
    | .mysql => Operation.listCatalogs
    | .oracle => Operation.listSchemas
  return connector.visibleSchemas names

def tableFilter (connector : Connector) (escape : String) (schema table : Option String) :
    TableFilter :=
  let schema := schema.map (Sql.escapePattern escape)
  let table := table.map (Sql.escapePattern escape)
  match connector.mode with
  | .mysql => ⟨schema, none, table⟩
  | .oracle => ⟨none, schema, table⟩

def getTables (connector : Connector) (schema table : Option String) : Operation (List TableRow) := do
  let escape ← Operation.escape
  Operation.getTables (connector.tableFilter escape schema table)

def tableSchema? (connector : Connector) (row : TableRow) : Option String :=
  row.column? (Sql.schemaColumn connector.mode)

def tableComment? (row : TableRow) : Option String := (row.column? "REMARKS").filter (!·.isEmpty)

def createSchema (connector : Connector) (schema : String) : Operation Unit := do
  if !Sql.hasSchemaStatements connector.mode then
    Operation.fail (.notSupported .creatingSchemas)
  else
    let name ← connector.quoteRemote schema
    Operation.execute ("CREATE SCHEMA " ++ name)

/-- Without `cascade`, a schema that holds tables is left alone. -/
def dropSchema (connector : Connector) (schema : String) (cascade : Bool) : Operation Unit := do
  if !Sql.hasSchemaStatements connector.mode then
    Operation.fail (.notSupported .droppingSchemas)
  else
    let remote := connector.remoteName schema
    if !cascade then
      let tables ← connector.getTables (some remote) none
      if !tables.isEmpty then Operation.fail (.schemaNotEmpty remote)
    let name ← Sql.quoteName connector.mode remote
    Operation.execute ("DROP SCHEMA " ++ name)

def renameSchema : Operation Unit := Operation.fail (.notSupported .renamingSchemas)

def setTableComment (connector : Connector) (table : RemoteTable) (comment : Option String) :
    Operation Unit := do
  let quoted ← connector.quotedRemoteTable table
  Operation.execute (Sql.tableComment connector.mode quoted comment)

/-- A table keeps its schema; naming another one is refused. -/
def renameTable (connector : Connector) (table : RemoteTable) (schema : Option String)
    (name : String) : Operation Unit := do
  let schema := schema.map connector.remoteName
  if schema.isSome && schema != table.home? then
    Operation.fail (.notSupported .renamingAcrossSchemas)
  else
    let quoted ← connector.quotedRemoteTable table
    let name ← connector.quoteRemote name
    Operation.execute s!"ALTER TABLE {quoted} RENAME TO {name}"

def renameColumn (connector : Connector) (table : RemoteTable) (column name : String) :
    Operation Unit := do
  let quoted ← connector.quotedRemoteTable table
  let column ← Sql.quoteName connector.mode column
  let name ← Sql.quoteName connector.mode name
  Operation.execute s!"ALTER TABLE {quoted} RENAME COLUMN {column} TO {name}"

def setColumnType : Operation Unit := Operation.fail (.notSupported .settingColumnTypes)

end TypeBridge.Connector
