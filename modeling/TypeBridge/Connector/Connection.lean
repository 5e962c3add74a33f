import TypeBridge.Error

/-!
Connections to a backend. A connection answers each call as it likes, also in view of the calls before
it; an operation is what it makes of those answers, together with the calls it makes.
-/
namespace TypeBridge

/-- A search for tables. Patterns have wildcards, which the escape of the connection makes literal. -/
structure TableFilter where
  catalog : Option String
  schemaPattern : Option String
  tablePattern : Option String
  deriving DecidableEq

structure TableRow where
  catalog : Option String
  schema : Option String
  name : String
  remarks : Option String
  deriving DecidableEq

def TableRow.column? (row : TableRow) (column : String) : Option String :=
  match column with
  | "TABLE_CAT" => row.catalog
  | "TABLE_SCHEM" => row.schema
  | "TABLE_NAME" => some row.name
  | "REMARKS" => row.remarks
  | _ => none

inductive Call where
  | listCatalogs
  | listSchemas
  | getTables (filter : TableFilter)
  | execute (sql : String)
  deriving DecidableEq

/-- The answers of a backend, given the calls made so far. -/
structure Connection where
  escape : String
  listCatalogs : List Call → Except Error (List String)
  listSchemas : List Call → Except Error (List String)
  getTables : List Call → TableFilter → Except Error (List TableRow)
  execute : List Call → String → Except Error Nat

/-- What an operation comes to, and the calls it makes, given the calls made before it. -/
def Operation (α : Type) : Type := Connection → List Call → Except Error α × List Call

namespace Operation

variable {α β : Type}

def ofExcept (result : Except Error α) : Operation α := fun _ _ => (result, [])

def andThen (first : Operation α) (next : α → Operation β) : Operation β := fun connection before =>
  match first connection before with
  | (.error error, calls) => (.error error, calls)
  | (.ok value, calls) =>
    let (result, more) := next value connection (before ++ calls)
    (result, calls ++ more)

instance : Monad Operation where
  pure value := ofExcept (.ok value)
  bind := andThen

instance : MonadLift (Except Error) Operation where
  monadLift := ofExcept

def fail (error : Error) : Operation α := ofExcept (.error error)

/-- One call; a failure is reported for the operation that `context` names. -/
def call (made : Call) (context : String)
    (answer : Connection → List Call → Except Error α) : Operation α := fun connection before =>
  (match answer connection before with
    | .ok value => .ok value
    | .error error => .error (error.inContext context), [made])

def listCatalogs : Operation (List String) :=
  call .listCatalogs "list catalogs" fun connection before => connection.listCatalogs before

def listSchemas : Operation (List String) :=
  call .listSchemas "list schemas" fun connection before => connection.listSchemas before

def getTables (filter : TableFilter) : Operation (List TableRow) :=
  call (.getTables filter) "list tables" fun connection before => connection.getTables before filter

def execute (sql : String) : Operation Unit :=
  call (.execute sql) sql fun connection before => (connection.execute before sql).map fun _ => ()

/-- The escape of search patterns, which takes no call. -/
def escape : Operation String := fun connection _ => (.ok connection.escape, [])

end Operation

end TypeBridge
