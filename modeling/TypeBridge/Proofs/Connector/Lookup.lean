import TypeBridge.Proofs.Connector.Endings
import TypeBridge.Proofs.Sql.Pattern

/-!
Tables by name. A backend is asked with patterns, so the names that are asked for are escaped, and the
answer is the tables with just these names. A schema is then dropped only where no table lies in it.
-/
namespace TypeBridge

def TableRow.home? (row : TableRow) : Mode → Option String
  | .mysql => row.catalog
  | .oracle => row.schema

def TableRow.Named (row : TableRow) (mode : Mode) (schema table : Option String) : Prop :=
  (∀ name ∈ schema, row.home? mode = some name) ∧ ∀ name ∈ table, row.name = name

instance (row : TableRow) (mode : Mode) (schema table : Option String) :
    Decidable (row.Named mode schema table) :=
  inferInstanceAs (Decidable (_ ∧ _))

namespace TableFilter

/-- A pattern that is given finds what stands in a column; nothing is found where nothing stands. -/
def Finds (escape : Char) (pattern column : Option String) : Prop :=
  ∀ given ∈ pattern, ∃ text ∈ column, Sql.Like escape given text

def Selects (filter : TableFilter) (escape : Char) (row : TableRow) : Prop :=
  Finds escape filter.catalog row.catalog ∧ Finds escape filter.schemaPattern row.schema ∧
    Finds escape filter.tablePattern (some row.name)

instance (escape : Char) (pattern column : Option String) : Decidable (Finds escape pattern column) :=
  inferInstanceAs (Decidable (∀ given ∈ pattern, _))

instance (filter : TableFilter) (escape : Char) (row : TableRow) :
    Decidable (filter.Selects escape row) :=
  inferInstanceAs (Decidable (_ ∧ _ ∧ _))

theorem finds_none (escape : Char) (column : Option String) : Finds escape none column := by
  rintro _ ⟨⟩

theorem finds_escapePattern (escape : Char) (name column : Option String) :
    Finds escape (name.map (Sql.escapePattern (.singleton escape))) column ↔
      ∀ given ∈ name, column = some given := by
  cases name with
  | none => exact ⟨fun _ => nofun, fun _ => nofun⟩
  | some name =>
    constructor
    · rintro found given same
      cases same
      obtain ⟨text, stands, like⟩ := found _ rfl
      rw [stands, (Sql.like_escapePattern escape name text).mp like]
    · rintro same given escaped
      cases escaped
      exact ⟨name, same name rfl, (Sql.like_escapePattern escape name name).mpr rfl⟩

end TableFilter

namespace Connection

/-- After the calls made so far, a backend has these tables and finds them by pattern. -/
structure Stores (connection : Connection) (before : List Call) (escape : Char)
    (tables : List TableRow) : Prop where
  escapes : connection.escape = .singleton escape
  selects : ∀ filter, connection.getTables before filter =
    .ok (tables.filter fun row => filter.Selects escape row)

def holding (escape : Char) (tables : List TableRow) : Connection where
  escape := .singleton escape
  listCatalogs := fun _ => .ok (tables.filterMap (·.catalog))
  listSchemas := fun _ => .ok (tables.filterMap (·.schema))
  getTables := fun _ filter => .ok (tables.filter fun row => filter.Selects escape row)
  execute := fun _ _ => .ok 0

theorem stores_holding (before : List Call) (escape : Char) (tables : List TableRow) :
    (holding escape tables).Stores before escape tables :=
  ⟨rfl, fun _ => rfl⟩

end Connection

namespace Connector

variable {connector : Connector} {connection : Connection} {before : List Call} {escape : Char}
  {tables : List TableRow}

theorem selects_tableFilter (schema table : Option String) (row : TableRow) :
    (connector.tableFilter (.singleton escape) schema table).Selects escape row ↔
      row.Named connector.mode schema table := by
  have named : TableFilter.Finds escape (table.map (Sql.escapePattern (.singleton escape)))
      (some row.name) ↔ ∀ name ∈ table, row.name = name := by
    rw [TableFilter.finds_escapePattern]
    simp only [Option.some.injEq]
  unfold tableFilter TableFilter.Selects TableRow.Named TableRow.home?
  cases connector.mode with
  | mysql =>
    dsimp only
    rw [TableFilter.finds_escapePattern, named]
    exact and_congr_right fun _ => and_iff_right (TableFilter.finds_none escape _)
  | oracle =>
    dsimp only
    rw [TableFilter.finds_escapePattern, named]
    exact and_iff_right (TableFilter.finds_none escape _)

theorem answer_of_stores (stores : connection.Stores before escape tables)
    (schema table : Option String) :
    connection.getTables before (connector.tableFilter connection.escape schema table) =
      .ok (tables.filter fun row => row.Named connector.mode schema table) := by
  rw [stores.selects, stores.escapes]
  simp only [selects_tableFilter]

theorem getTables_of_answer {schema table : Option String} {rows : List TableRow}
    (answered : connection.getTables before
      (connector.tableFilter connection.escape schema table) = .ok rows) :
    (connector.getTables schema table connection before).1 = .ok rows := by
  change (Operation.andThen Operation.escape (fun escape =>
    Operation.getTables (connector.tableFilter escape schema table)) connection before).1 = _
  simp only [Operation.andThen, Operation.escape, Operation.getTables, Operation.call,
    List.append_nil, answered]

theorem execute_mem_drop {schema sql : String} :
    Call.execute sql ∈ (connector.drop schema connection before).2 ↔
      ∃ name, Sql.quoteName connector.mode (connector.remoteName schema) = .ok name ∧
        sql = "DROP SCHEMA " ++ name := by
  change Call.execute sql ∈ (Operation.andThen (Operation.ofExcept _) _ connection before).2 ↔ _
  cases Sql.quoteName connector.mode (connector.remoteName schema) with
  | error =>
    constructor
    · intro member
      cases member
    · rintro ⟨name, quoted, -⟩
      cases quoted
  | ok name =>
    constructor
    · intro member
      cases List.mem_singleton.mp member
      exact ⟨name, rfl, rfl⟩
    · rintro ⟨_, quoted, rfl⟩
      cases quoted
      exact List.mem_singleton_self _

theorem dropSchema_occupied {schema : String} {row : TableRow} {rows : List TableRow}
    (covered : Sql.hasSchemaStatements connector.mode = true)
    (answered : connection.getTables before (connector.tableFilter connection.escape
      (some (connector.remoteName schema)) none) = .ok (row :: rows)) :
    (connector.dropSchema schema false connection before).1 =
        .error (.schemaNotEmpty (connector.remoteName schema)) ∧
      ∀ sql, Call.execute sql ∉ (connector.dropSchema schema false connection before).2 := by
  rw [dropSchema_false schema covered]
  dsimp only
  rw [answered]
  refine ⟨rfl, fun sql member => ?_⟩
  cases List.mem_singleton.mp member

theorem dropSchema_empty {schema sql : String}
    (covered : Sql.hasSchemaStatements connector.mode = true)
    (answered : connection.getTables before (connector.tableFilter connection.escape
      (some (connector.remoteName schema)) none) = .ok []) :
    Call.execute sql ∈ (connector.dropSchema schema false connection before).2 ↔
      ∃ name, Sql.quoteName connector.mode (connector.remoteName schema) = .ok name ∧
        sql = "DROP SCHEMA " ++ name := by
  rw [dropSchema_false schema covered]
  dsimp only
  rw [answered]
  have listed : Call.execute sql ≠
      .getTables (connector.tableFilter connection.escape (some (connector.remoteName schema)) none) := by
    rintro ⟨⟩
  exact (List.mem_cons.trans (or_iff_right listed)).trans execute_mem_drop

theorem remoteName_of_mysql (mysql : connector.mode = .mysql) (name : String) :
    connector.remoteName name = name := by
  unfold remoteName
  rw [mysql]
  rfl

theorem answer_of_mysql (mysql : connector.mode = .mysql)
    (stores : connection.Stores before escape tables) (schema : String) :
    connection.getTables before (connector.tableFilter connection.escape
        (some (connector.remoteName schema)) none) =
      .ok (tables.filter fun row => row.catalog = some schema) := by
  have lies (row : TableRow) :
      row.Named connector.mode (some schema) none ↔ row.catalog = some schema := by
    simp [TableRow.Named, TableRow.home?, mysql]
  rw [answer_of_stores stores, remoteName_of_mysql mysql]
  simp only [lies]

/-- A lookup answers with the tables that have the given names, whatever characters these have. So a
schema with tables is not dropped, and its statement is run just where no table lies in it. -/
theorem lookup_exact (connector : Connector) (stores : connection.Stores before escape tables) :
    (∀ schema table, (connector.getTables schema table connection before).1 =
      .ok (tables.filter fun row => row.Named connector.mode schema table)) ∧
    (connector.mode = .mysql → ∀ schema,
      ((∃ row ∈ tables, row.catalog = some schema) →
        (connector.dropSchema schema false connection before).1 = .error (.schemaNotEmpty schema)) ∧
      ∀ sql, Call.execute sql ∈ (connector.dropSchema schema false connection before).2 ↔
        (∀ row ∈ tables, row.catalog ≠ some schema) ∧
          ∃ name, Sql.quoteName .mysql schema = .ok name ∧ sql = "DROP SCHEMA " ++ name) := by
  refine ⟨fun schema table => getTables_of_answer (answer_of_stores stores schema table), ?_⟩
  intro mysql schema
  have covered : Sql.hasSchemaStatements connector.mode = true := by
    rw [mysql]
    rfl
  have remote := remoteName_of_mysql mysql schema
  have answered := answer_of_mysql mysql stores schema
  cases found : tables.filter fun row => row.catalog = some schema with
  | nil =>
    rw [found] at answered
    have free : ∀ row ∈ tables, row.catalog ≠ some schema := by
      simpa using List.filter_eq_nil_iff.mp found
    refine ⟨fun ⟨row, member, holds⟩ => absurd holds (free row member), fun sql => ?_⟩
    rw [dropSchema_empty covered answered, remote, mysql]
    exact (and_iff_right free).symm
  | cons row rows =>
    rw [found] at answered
    obtain ⟨refused, silent⟩ := dropSchema_occupied covered answered
    have among : row ∈ tables.filter fun row => row.catalog = some schema := by
      rw [found]
      exact List.mem_cons_self
    obtain ⟨member, holds⟩ := List.mem_filter.mp among
    refine ⟨fun _ => by rw [refused, remote], fun sql => ⟨fun runs => absurd runs (silent sql), ?_⟩⟩
    rintro ⟨free, -⟩
    exact absurd (of_decide_eq_true holds) (free row member)

/-- An underscore in the name is not a wildcard, even where it is the escape. -/
theorem lookup_exact_underscores :
    let tables : List TableRow := [⟨some "my-db", none, "a_b", none⟩, ⟨some "my_db", none, "a%b", none⟩]
    let connection := Connection.holding '_' tables
    connection.Stores [] '_' tables ∧
      ((ofMode .mysql).getTables (some "my_db") (some "a%b") connection []).1 =
        .ok [⟨some "my_db", none, "a%b", none⟩] ∧
      ((ofMode .mysql).dropSchema "my_db" false connection []).1 =
        .error (.schemaNotEmpty "my_db") := by
  intro tables connection
  have stores : connection.Stores [] '_' tables := Connection.stores_holding [] '_' tables
  obtain ⟨lookup, guarded⟩ := lookup_exact (ofMode .mysql) stores
  refine ⟨stores, ?_, ?_⟩
  · rw [lookup (some "my_db") (some "a%b")]
    rfl
  · exact (guarded rfl "my_db").1 ⟨_, List.mem_cons_of_mem _ List.mem_cons_self, rfl⟩

end Connector

end TypeBridge
