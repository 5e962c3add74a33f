import TypeBridge.Proofs.Connector.Endings

/-!
Runs of a connector. Requests are answered one after the other over one connection, and its answers may
depend on every call that was made. Whatever they are, a request that changes the catalog runs one
statement at most, as its last call, and succeeds just when that statement was run and succeeded.
-/
namespace TypeBridge.Connector

open Operation

inductive Request where
  /-- A question about types or statements, for which no connection is needed. -/
  | ask (question : Connector → Except Error Unit)
  | listSchemas
  | getTables (schema table : Option String)
  | createSchema (schema : String)
  | dropSchema (schema : String) (cascade : Bool)
  | renameSchema
  | setTableComment (table : RemoteTable) (comment : Option String)
  | renameTable (table : RemoteTable) (schema : Option String) (name : String)
  | renameColumn (table : RemoteTable) (column name : String)
  | setColumnType

def Request.changes : Request → Bool
  | .createSchema _ | .dropSchema _ _ | .setTableComment _ _ | .renameTable _ _ _
  | .renameColumn _ _ _ => true
  | _ => false

/-- A request is answered; of lists it only counts that there was one. -/
def perform (connector : Connector) : Request → Operation Unit
  | .ask question => ofExcept (question connector)
  | .listSchemas => (fun _ => ()) <$> connector.listSchemas
  | .getTables schema table => (fun _ => ()) <$> connector.getTables schema table
  | .createSchema schema => connector.createSchema schema
  | .dropSchema schema cascade => connector.dropSchema schema cascade
  | .renameSchema => renameSchema
  | .setTableComment table comment => connector.setTableComment table comment
  | .renameTable table schema name => connector.renameTable table schema name
  | .renameColumn table column name => connector.renameColumn table column name
  | .setColumnType => setColumnType

theorem concludes_perform (connector : Connector) {request : Request} (changes : request.changes = true) :
    Concludes (connector.perform request) := by
  cases request with
  | createSchema => exact concludes_createSchema connector _
  | dropSchema => exact concludes_dropSchema connector _ _
  | setTableComment => exact concludes_setTableComment connector _ _
  | renameTable => exact concludes_renameTable connector _ _ _
  | renameColumn => exact concludes_renameColumn connector _ _ _
  | _ => cases changes

structure Entry where
  request : Request
  before : List Call
  calls : List Call
  outcome : Except Error Unit

def answer (connector : Connector) (connection : Connection) (before : List Call)
    (request : Request) : Entry :=
  let performed := connector.perform request connection before
  ⟨request, before, performed.2, performed.1⟩

def run (connector : Connector) (connection : Connection) : List Call → List Request → List Entry
  | _, [] => []
  | before, request :: rest =>
    let entry := connector.answer connection before request
    entry :: connector.run connection (before ++ entry.calls) rest

/-- What a request for a statement comes to. One statement is run at most, and no call follows it. The
request succeeds just when a statement was run and succeeded; a statement that failed is reported with
its text, and when there was another reason, none was run. -/
structure Settled (connection : Connection) (entry : Entry) : Prop where
  single : (Call.statements entry.calls).length ≤ 1
  last : ∀ sql ∈ Call.statements entry.calls, entry.calls.getLast? = some (.execute sql)
  succeeds : entry.outcome = .ok () ↔ ∃ looked sql count, entry.calls = looked ++ [.execute sql] ∧
    connection.execute (entry.before ++ looked) sql = .ok count
  fails : ∀ looked sql fault, entry.calls = looked ++ [.execute sql] →
    connection.execute (entry.before ++ looked) sql = .error fault →
      entry.outcome = .error (.backend fault.reported sql)
  stops : ∀ error, entry.outcome = .error error →
    (Call.statements entry.calls = [] ∧ Stops connection entry.before entry.calls error) ∨
      ∃ looked sql fault, entry.calls = looked ++ [.execute sql] ∧
        connection.execute (entry.before ++ looked) sql = .error fault ∧
          error = .backend fault.reported sql

/-- Where the last call is a statement, what was asked of the connection is what its answer is to. -/
theorem execute_of_concat {connection : Connection} {before first second : List Call} {sql other : String}
    {result : Except Error Nat} (answered : connection.execute (before ++ first) sql = result)
    (same : first ++ [.execute sql] = second ++ [.execute other]) :
    sql = other ∧ connection.execute (before ++ second) other = result := by
  obtain ⟨rfl, last⟩ := List.append_inj' same rfl
  obtain rfl : sql = other := by simpa using last
  exact ⟨rfl, answered⟩

theorem single_of_concat {looked : List Call} (silent : Call.statements looked = []) (sql : String) :
    (Call.statements (looked ++ [.execute sql])).length ≤ 1 ∧
      ∀ other ∈ Call.statements (looked ++ [.execute sql]),
        (looked ++ [Call.execute sql]).getLast? = some (.execute other) := by
  rw [Call.statements_concat silent sql]
  exact ⟨Nat.le_refl 1, by simp⟩

theorem settled_of_ends {connection : Connection} {entry : Entry}
    (ends : Ends connection entry.before entry.calls entry.outcome) : Settled connection entry := by
  obtain ⟨request, before, calls, outcome⟩ := entry
  dsimp only at ends
  cases ends with
  | stopped reason =>
    have silent := reason.statements
    -- Nothing was run, so no statement is the last of the calls.
    have unrun : ∀ looked sql, calls ≠ looked ++ [.execute sql] := by
      intro looked sql same
      rw [same, Call.statements_append] at silent
      exact absurd silent (List.append_ne_nil_of_right_ne_nil _ (List.cons_ne_nil _ _))
    refine ⟨by simp [silent], by simp [silent], ?_, ?_, ?_⟩
    · constructor
      · intro h
        cases h
      · rintro ⟨looked, sql, _, same, _⟩
        exact absurd same (unrun looked sql)
    · intro looked sql _ same
      exact absurd same (unrun looked sql)
    · intro error same
      cases same
      exact .inl ⟨silent, reason⟩
  | @done looked sql count silent answered =>
    obtain ⟨single, last⟩ := single_of_concat silent sql
    refine ⟨single, last, ⟨fun _ => ⟨looked, sql, count, rfl, answered⟩, fun _ => rfl⟩, ?_, ?_⟩
    · intro others other fault same failed
      obtain ⟨-, succeeded⟩ := execute_of_concat answered same
      cases succeeded.symm.trans failed
    · intro error same
      cases same
  | @failed looked sql fault silent answered =>
    obtain ⟨single, last⟩ := single_of_concat silent sql
    refine ⟨single, last, ?_, ?_, ?_⟩
    · constructor
      · intro h
        cases h
      · rintro ⟨others, other, count, same, succeeded⟩
        obtain ⟨-, failed⟩ := execute_of_concat answered same
        cases failed.symm.trans succeeded
    · intro others other another same failed
      obtain ⟨rfl, also⟩ := execute_of_concat answered same
      cases also.symm.trans failed
      rfl
    · intro error same
      cases same
      exact .inr ⟨looked, sql, fault, rfl, answered, rfl⟩

/-- Where an entry stands in a run, its request was answered after the calls of all entries before it. -/
theorem run_split {connector : Connector} {connection : Connection} {before : List Call}
    {requests : List Request} {earlier later : List Entry} {entry : Entry}
    (h : connector.run connection before requests = earlier ++ entry :: later) :
    entry.before = before ++ earlier.flatMap (·.calls) ∧
      entry = connector.answer connection entry.before entry.request := by
  induction requests generalizing before earlier with
  | nil => simp [run] at h
  | cons request rest ih =>
    rw [run] at h
    cases earlier with
    | nil =>
      have first := List.head_eq_of_cons_eq h
      rw [← first]
      exact ⟨(List.append_nil before).symm, rfl⟩
    | cons first earlier =>
      have same := List.head_eq_of_cons_eq h
      obtain ⟨place, answered⟩ := ih (List.tail_eq_of_cons_eq h)
      refine ⟨?_, answered⟩
      rw [place, same, List.flatMap_cons, List.append_assoc]

theorem run_requests (connector : Connector) (connection : Connection) (before : List Call)
    (requests : List Request) :
    (connector.run connection before requests).map (·.request) = requests := by
  induction requests generalizing before with
  | nil => rfl
  | cons request rest ih =>
    rw [run, List.map_cons, ih]
    rfl

/-- In a run of requests over any connection, each request for a statement is settled as it stands: at
most one statement, as the last call, and success just when it succeeded. The mode without statements for
schemas makes no call for them, and a schema that is dropped without its tables had none when they were
listed. -/
theorem run_settles (connector : Connector) (connection : Connection) (before : List Call)
    (requests : List Request) :
    (connector.run connection before requests).map (·.request) = requests ∧
    ∀ earlier entry later, connector.run connection before requests = earlier ++ entry :: later →
      entry.before = before ++ earlier.flatMap (·.calls) ∧
      (entry.request.changes = true → Settled connection entry) ∧
      (connector.mode = .oracle →
        (∀ schema, entry.request = .createSchema schema → entry.calls = []) ∧
          ∀ schema cascade, entry.request = .dropSchema schema cascade → entry.calls = []) ∧
      (∀ schema, entry.request = .dropSchema schema false → Call.statements entry.calls ≠ [] →
        ∃ filter sql, connection.getTables entry.before filter = .ok [] ∧
          entry.calls = [.getTables filter, .execute sql]) := by
  refine ⟨run_requests connector connection before requests, ?_⟩
  intro earlier entry later h
  obtain ⟨place, answered⟩ := run_split h
  refine ⟨place, ?_, ?_, ?_⟩
  · intro changes
    rw [answered]
    exact settled_of_ends (concludes_perform connector changes connection entry.before)
  · intro oracle
    have uncovered : (!Sql.hasSchemaStatements connector.mode) = true := by rw [oracle]; rfl
    constructor
    · intro schema asked
      rw [answered, answer, asked, perform, createSchema, if_pos uncovered]
      rfl
    · intro schema cascade asked
      rw [answered, answer, asked, perform, dropSchema, if_pos uncovered]
      rfl
  · intro schema asked runs
    rw [answered, asked] at runs ⊢
    obtain ⟨listed, sql, only⟩ := dropSchema_listed runs
    exact ⟨_, sql, listed, only⟩

/-- A schema is dropped twice. At first it holds a table; the second time it is empty, and the statement
fails. -/
theorem run_settles_emptiedSchema :
    let connection : Connection :=
      { escape := "\\"
        listCatalogs := fun _ => .ok []
        listSchemas := fun _ => .ok []
        getTables := fun before _ => .ok (if before.isEmpty then [⟨some "s", none, "t", none⟩] else [])
        execute := fun _ _ => .error (.io "reset") }
    let drop := Request.dropSchema "s" false
    let entries := (ofMode .mysql).run connection [] [drop, drop]
    entries.map (·.outcome) =
        [.error (.schemaNotEmpty "s"), .error (.backend "IO error: reset" "DROP SCHEMA `s`")] ∧
      ∀ entry ∈ entries, Settled connection entry := by
  intro connection drop entries
  refine ⟨rfl, ?_⟩
  intro entry member
  obtain ⟨earlier, later, split⟩ := List.append_of_mem member
  obtain ⟨requests, settles⟩ := run_settles (ofMode .mysql) connection [] [drop, drop]
  obtain ⟨_, settled, _⟩ := settles earlier entry later split
  have asked : entry.request ∈ [drop, drop] := requests ▸ List.mem_map_of_mem member
  have dropped : entry.request = drop := by simpa using asked
  exact settled (by rw [dropped]; rfl)

end TypeBridge.Connector
