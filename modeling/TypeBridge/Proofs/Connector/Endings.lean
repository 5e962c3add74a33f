import TypeBridge.Connector.Catalog
import TypeBridge.Proofs.Outcome
import TypeBridge.Proofs.Sql.Quoting

/-!
How operations on the catalog end. Names are checked and tables listed before anything is changed, so an
operation either stops without a statement, for a reason that its calls show, or runs one statement as
its last call and has the outcome of that.
-/
namespace TypeBridge

def Call.statement? : Call → Option String
  | .execute sql => some sql
  | _ => none

def Call.statements (calls : List Call) : List String := calls.filterMap Call.statement?

/-- The message under which a failure of a connection is reported: its own where it is a backend error,
and the way it is shown where it is any other. -/
def Error.reported : Error → String
  | .backend message _ => message
  | other => other.message

theorem Error.inContext_eq (context : String) (error : Error) :
    error.inContext context = .backend error.reported context := by
  cases error <;> rfl

namespace Call

theorem statements_append (first second : List Call) :
    statements (first ++ second) = statements first ++ statements second :=
  List.filterMap_append

theorem statements_append_nil {first second : List Call} (former : statements first = [])
    (later : statements second = []) : statements (first ++ second) = [] := by
  rw [statements_append, former, later]
  rfl

theorem statements_concat {looked : List Call} (silent : statements looked = []) (sql : String) :
    statements (looked ++ [.execute sql]) = [sql] := by
  rw [statements_append, silent]
  rfl

end Call

namespace Operation

open Call (statements statements_append_nil)

variable {α β : Type} {connection : Connection} {before calls looked : List Call}
  {outcome : Except Error Unit}

/-- Why an operation stops before its statement: no rule covers it, a name cannot be quoted, the tables of
a schema cannot be listed, or there are some. -/
inductive Stops (connection : Connection) (before : List Call) : List Call → Error → Prop where
  | unsupported {looked : List Call} (silent : statements looked = []) (cause : Unsupported) :
      Stops connection before looked (.notSupported cause)
  | invalid {looked : List Call} (silent : statements looked = []) (cause : BadValue) :
      Stops connection before looked (.invalidValue cause)
  | unlisted {looked : List Call} {filter : TableFilter} {fault : Error}
      (silent : statements looked = [])
      (answered : connection.getTables (before ++ looked) filter = .error fault) :
      Stops connection before (looked ++ [.getTables filter]) (.backend fault.reported "list tables")
  | occupied {looked : List Call} {filter : TableFilter} {row : TableRow} {rows : List TableRow}
      (silent : statements looked = [])
      (answered : connection.getTables (before ++ looked) filter = .ok (row :: rows))
      (schema : String) :
      Stops connection before (looked ++ [.getTables filter]) (.schemaNotEmpty schema)

/-- How an operation ends that runs a statement last, if it runs one. -/
inductive Ends (connection : Connection) (before : List Call) :
    List Call → Except Error Unit → Prop where
  | stopped {looked : List Call} {error : Error} (reason : Stops connection before looked error) :
      Ends connection before looked (.error error)
  | done {looked : List Call} {sql : String} {count : Nat} (silent : statements looked = [])
      (answered : connection.execute (before ++ looked) sql = .ok count) :
      Ends connection before (looked ++ [.execute sql]) (.ok ())
  | failed {looked : List Call} {sql : String} {fault : Error} (silent : statements looked = [])
      (answered : connection.execute (before ++ looked) sql = .error fault) :
      Ends connection before (looked ++ [.execute sql]) (.error (.backend fault.reported sql))

theorem Stops.statements {error : Error} (stops : Stops connection before looked error) :
    statements looked = [] := by
  cases stops with
  | unsupported silent | invalid silent => exact silent
  | unlisted silent | occupied silent => exact statements_append_nil silent rfl

theorem Stops.after {error : Error} (silent : Call.statements looked = [])
    (stops : Stops connection (before ++ looked) calls error) :
    Stops connection before (looked ++ calls) error := by
  cases stops with
  | unsupported quiet cause => exact .unsupported (statements_append_nil silent quiet) cause
  | invalid quiet cause => exact .invalid (statements_append_nil silent quiet) cause
  | unlisted quiet answered =>
    rw [← List.append_assoc]
    exact .unlisted (statements_append_nil silent quiet) (by rwa [← List.append_assoc])
  | occupied quiet answered schema =>
    rw [← List.append_assoc]
    exact .occupied (statements_append_nil silent quiet) (by rwa [← List.append_assoc]) schema

theorem Ends.after (silent : Call.statements looked = [])
    (ends : Ends connection (before ++ looked) calls outcome) :
    Ends connection before (looked ++ calls) outcome := by
  cases ends with
  | stopped reason => exact .stopped (reason.after silent)
  | done quiet answered =>
    rw [← List.append_assoc]
    exact .done (statements_append_nil silent quiet) (by rwa [← List.append_assoc])
  | failed quiet answered =>
    rw [← List.append_assoc]
    exact .failed (statements_append_nil silent quiet) (by rwa [← List.append_assoc])

def Concludes (operation : Operation Unit) : Prop :=
  ∀ connection before, Ends connection before (operation connection before).2
    (operation connection before).1

theorem concludes_unsupported (cause : Unsupported) : Concludes (fail (.notSupported cause)) :=
  fun _ _ => .stopped (.unsupported rfl cause)

theorem concludes_execute (sql : String) : Concludes (execute sql) := by
  intro connection before
  have silent : Call.statements [] = [] := rfl
  cases answered : connection.execute before sql with
  | ok count =>
    have ends : Ends connection before ([] ++ [.execute sql]) (.ok ()) :=
      .done silent (by rwa [List.append_nil])
    simpa [execute, call, answered, Except.map] using ends
  | error fault =>
    have ends : Ends connection before ([] ++ [.execute sql]) (.error (.backend fault.reported sql)) :=
      .failed silent (by rwa [List.append_nil])
    simpa [execute, call, answered, Except.map, Error.inContext_eq] using ends

def Validates (result : Except Error α) : Prop :=
  ∀ error, result = .error error → ∃ cause, error = .invalidValue cause

theorem validates_bind {first : Except Error α} {next : α → Except Error β}
    (former : Validates first) (later : ∀ value, Validates (next value)) :
    Validates (first >>= next) := by
  cases first with
  | ok value => exact later value
  | error cause =>
    intro error h
    cases h
    exact former cause rfl

/-- Names are checked before anything is run. -/
theorem concludes_validated {result : Except Error α} {next : α → Operation Unit}
    (validates : Validates result) (later : ∀ value, Concludes (next value)) :
    Concludes (liftM result >>= next) := by
  intro connection before
  change Ends connection before (andThen (ofExcept result) next connection before).2
    (andThen (ofExcept result) next connection before).1
  cases result with
  | error error =>
    obtain ⟨cause, rfl⟩ := validates error rfl
    exact .stopped (.invalid rfl cause)
  | ok value =>
    have ends := later value connection before
    simpa [andThen, ofExcept] using ends

end Operation

namespace Sql

open Operation (Validates validates_bind)

theorem validates_quoteName (mode : Mode) (name : String) : Validates (quoteName mode name) := by
  refine validates_bind (fun _ => checkName_error) fun _ => ?_
  intro error h
  cases h

theorem validates_qualifiedName (mode : Mode) (catalog schema : Option String) (table : String) :
    Validates (qualifiedName mode catalog schema table) := by
  unfold qualifiedName
  dsimp only
  split
  · refine validates_bind (validates_quoteName mode _) fun _ => ?_
    refine validates_bind (validates_quoteName mode table) fun _ => ?_
    intro error h
    cases h
  · exact validates_quoteName mode table

end Sql

namespace Connector

open Operation
open Sql (validates_quoteName validates_qualifiedName)

theorem concludes_createSchema (connector : Connector) (schema : String) :
    Concludes (connector.createSchema schema) := by
  unfold createSchema
  split
  · exact concludes_unsupported _
  · exact concludes_validated (validates_quoteName _ _) fun _ => concludes_execute _

theorem concludes_setTableComment (connector : Connector) (table : RemoteTable)
    (comment : Option String) : Concludes (connector.setTableComment table comment) :=
  concludes_validated (validates_qualifiedName _ _ _ _) fun _ => concludes_execute _

theorem concludes_renameTable (connector : Connector) (table : RemoteTable) (schema : Option String)
    (name : String) : Concludes (connector.renameTable table schema name) := by
  unfold renameTable
  dsimp only
  split
  · exact concludes_unsupported _
  · refine concludes_validated (validates_qualifiedName _ _ _ _) fun _ => ?_
    exact concludes_validated (validates_quoteName _ _) fun _ => concludes_execute _

theorem concludes_renameColumn (connector : Connector) (table : RemoteTable) (column name : String) :
    Concludes (connector.renameColumn table column name) := by
  refine concludes_validated (validates_qualifiedName _ _ _ _) fun _ => ?_
  refine concludes_validated (validates_quoteName _ _) fun _ => ?_
  exact concludes_validated (validates_quoteName _ _) fun _ => concludes_execute _

/-- What follows a listing of tables goes by its answer, which takes one call. -/
theorem getTables_bind (connector : Connector) (schema table : Option String)
    (next : List TableRow → Operation Unit) (connection : Connection) (before : List Call) :
    (connector.getTables schema table >>= next) connection before =
      let filter := connector.tableFilter connection.escape schema table
      match connection.getTables before filter with
      | .error fault => (.error (.backend fault.reported "list tables"), [.getTables filter])
      | .ok rows =>
        let (outcome, calls) := next rows connection (before ++ [.getTables filter])
        (outcome, .getTables filter :: calls) := by
  change andThen (andThen Operation.escape fun escape =>
    Operation.getTables (connector.tableFilter escape schema table)) next connection before = _
  dsimp only
  cases answered : connection.getTables before (connector.tableFilter connection.escape schema table) <;>
    simp [andThen, Operation.escape, Operation.getTables, call, answered, Error.inContext_eq]

def drop (connector : Connector) (schema : String) : Operation Unit := do
  let name ← Sql.quoteName connector.mode (connector.remoteName schema)
  Operation.execute ("DROP SCHEMA " ++ name)

theorem concludes_drop (connector : Connector) (schema : String) : Concludes (connector.drop schema) :=
  concludes_validated (validates_quoteName _ _) fun _ => concludes_execute _

theorem drop_calls {connector : Connector} {schema : String} {connection : Connection}
    {before : List Call}
    (runs : Call.statements (connector.drop schema connection before).2 ≠ []) :
    ∃ sql, (connector.drop schema connection before).2 = [.execute sql] := by
  change Call.statements (andThen (ofExcept _) _ connection before).2 ≠ [] at runs
  change ∃ sql, (andThen (ofExcept _) _ connection before).2 = [.execute sql]
  cases quoted : Sql.quoteName connector.mode (connector.remoteName schema) with
  | error cause =>
    rw [quoted] at runs
    exact absurd rfl runs
  | ok name => exact ⟨_, rfl⟩

/-- A schema that is dropped without its tables is looked into first. -/
theorem dropSchema_false {connector : Connector} (schema : String)
    (covered : Sql.hasSchemaStatements connector.mode = true) (connection : Connection)
    (before : List Call) :
    connector.dropSchema schema false connection before =
      let filter := connector.tableFilter connection.escape (some (connector.remoteName schema)) none
      match connection.getTables before filter with
      | .error fault => (.error (.backend fault.reported "list tables"), [.getTables filter])
      | .ok (_ :: _) =>
        (.error (.schemaNotEmpty (connector.remoteName schema)), [.getTables filter])
      | .ok [] =>
        let (outcome, calls) := connector.drop schema connection (before ++ [.getTables filter])
        (outcome, .getTables filter :: calls) := by
  unfold dropSchema
  dsimp only
  rw [if_neg (by simp [covered]), if_pos (by decide), getTables_bind]
  dsimp only
  cases connection.getTables before
      (connector.tableFilter connection.escape (some (connector.remoteName schema)) none) with
  | error => rfl
  | ok rows => cases rows <;> rfl

theorem concludes_dropSchema (connector : Connector) (schema : String) (cascade : Bool) :
    Concludes (connector.dropSchema schema cascade) := by
  by_cases covered : Sql.hasSchemaStatements connector.mode = true
  · cases cascade with
    | true =>
      unfold dropSchema
      dsimp only
      rw [if_neg (by simp [covered]), if_neg (by decide)]
      exact concludes_drop connector schema
    | false =>
      intro connection before
      rw [dropSchema_false schema covered]
      dsimp only
      generalize connector.tableFilter connection.escape (some (connector.remoteName schema)) none = filter
      have silent : Call.statements [] = [] := rfl
      have listed : Call.statements [.getTables filter] = [] := rfl
      cases answered : connection.getTables before filter with
      | error fault =>
        have stops : Stops connection before ([] ++ [.getTables filter]) _ :=
          .unlisted silent (by rwa [List.append_nil])
        exact .stopped stops
      | ok rows =>
        cases rows with
        | nil => exact (concludes_drop connector schema connection _).after listed
        | cons row rows =>
          have stops : Stops connection before ([] ++ [.getTables filter]) _ :=
            .occupied silent (by rwa [List.append_nil]) (connector.remoteName schema)
          exact .stopped stops
  · unfold dropSchema
    dsimp only
    rw [if_pos (by simpa using covered)]
    exact concludes_unsupported _

theorem dropSchema_listed {connector : Connector} {schema : String} {connection : Connection}
    {before : List Call}
    (runs : Call.statements (connector.dropSchema schema false connection before).2 ≠ []) :
    let filter := connector.tableFilter connection.escape (some (connector.remoteName schema)) none
    connection.getTables before filter = .ok [] ∧ ∃ sql,
      (connector.dropSchema schema false connection before).2 = [.getTables filter, .execute sql] := by
  by_cases covered : Sql.hasSchemaStatements connector.mode = true
  · rw [dropSchema_false schema covered] at runs ⊢
    dsimp only at runs ⊢
    generalize connector.tableFilter connection.escape (some (connector.remoteName schema)) none = filter
      at runs ⊢
    cases answered : connection.getTables before filter with
    | error fault =>
      rw [answered] at runs
      exact absurd rfl runs
    | ok rows =>
      rw [answered] at runs
      cases rows with
      | cons row rows => exact absurd rfl runs
      | nil =>
        obtain ⟨sql, only⟩ := drop_calls runs
        exact ⟨rfl, sql, congrArg (Call.getTables filter :: ·) only⟩
  · unfold dropSchema at runs
    dsimp only at runs
    rw [if_pos (by simpa using covered)] at runs
    exact absurd rfl runs

end Connector

end TypeBridge
