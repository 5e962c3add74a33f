import TypeBridge.Connector.Catalog
import TypeBridge.Proofs.Column.TypeTokens
import TypeBridge.Proofs.Connector.Calls
import TypeBridge.Proofs.Connector.Endings

/-!
The statements that define tables and schemas are read as they are meant. Whatever characters are in the
names and comments, a statement has its keywords and marks, one token for each part of a name, the types
of its columns, and one literal for a comment, and nothing else.
-/
namespace TypeBridge

open TypeBridge.Sql

namespace Sql

/-- The tokens of a table name. Its schema, or else its catalog, stands in front with a point. -/
def tableTokens (catalog schema : Option String) (table : String) : List Token :=
  match (schema.filter (!·.isEmpty)).or (catalog.filter (!·.isEmpty)) with
  | some qualifier => [.name qualifier, .symbol '.', .name table]
  | none => [.name table]

def commentTokens (mode : Mode) (table : List Token) (comment : Option String) : List Token :=
  let text := Token.literal (comment.getD "")
  match mode with
  | .mysql => [.word "ALTER", .word "TABLE"] ++ table ++ [.word "COMMENT", text]
  | .oracle => [.word "COMMENT", .word "ON", .word "TABLE"] ++ table ++ [.word "IS", text]

def nullTokens (mode : Mode) (nullable : Bool) : List Token :=
  match mode, nullable with
  | _, false => [.word "NOT", .word "NULL"]
  | .mysql, true => [.word "NULL"]
  | .oracle, true => []

def createTokens (table : List Token) (columns : List (List Token)) : List Token :=
  [.word "CREATE", .word "TABLE"] ++ table ++
    ([.symbol '('] ++ ([.symbol ','].intercalate columns ++ [.symbol ')']))

variable {mode : Mode}

theorem lexes_qualifiedName {catalog schema : Option String} {table quoted : String}
    (h : qualifiedName mode catalog schema table = .ok quoted) :
    Lexes mode quoted.toList (tableTokens catalog schema table) := by
  unfold qualifiedName at h
  unfold tableTokens
  dsimp only at h
  cases present : (schema.filter (!·.isEmpty)).or (catalog.filter (!·.isEmpty)) with
  | some qualifier =>
    rw [present] at h
    obtain ⟨first, quotesFirst, h⟩ := bind_eq_ok.mp h
    obtain ⟨second, quotesSecond, h⟩ := bind_eq_ok.mp h
    cases h
    have point : Separates mode ".".toList [.symbol '.'] := by cases mode <;> decide
    have qualified := (lexes_quoteName quotesFirst).append_separates point
    rw [String.toList_append, String.toList_append]
    exact qualified.append_lexes (lexes_quoteName quotesSecond)
  | none =>
    rw [present] at h
    exact lexes_quoteName h

theorem lexesApart_alterTable (mode : Mode) :
    LexesApart mode "ALTER TABLE ".toList [.word "ALTER", .word "TABLE"] := by
  cases mode <;> decide

theorem lexes_tableComment {quoted : String} {table : List Token} (named : Lexes mode quoted.toList table)
    (comment : Option String) :
    Lexes mode (tableComment mode quoted comment).toList (commentTokens mode table comment) := by
  have text := lexes_literal mode (comment.getD "")
  cases mode with
  | mysql =>
    have clause : Separates .mysql " COMMENT ".toList [.word "COMMENT"] := by decide
    have sql : (tableComment .mysql quoted comment).toList = "ALTER TABLE ".toList ++ quoted.toList ++
        " COMMENT ".toList ++ (literal .mysql (comment.getD "")).toList := by
      rw [← String.toList_append, ← String.toList_append, ← String.toList_append]
      rfl
    have tokens : commentTokens .mysql table comment = [.word "ALTER", .word "TABLE"] ++ table ++
        [.word "COMMENT"] ++ [.literal (comment.getD "")] := by simp [commentTokens]
    rw [sql, tokens]
    have head := (lexesApart_alterTable .mysql).append_lexes named
    exact (head.append_separates clause).append_lexes text
  | oracle =>
    have on : LexesApart .oracle "COMMENT ON TABLE ".toList
        [.word "COMMENT", .word "ON", .word "TABLE"] := by decide
    have clause : Separates .oracle " IS ".toList [.word "IS"] := by decide
    have sql : (tableComment .oracle quoted comment).toList = "COMMENT ON TABLE ".toList ++
        quoted.toList ++ " IS ".toList ++ (literal .oracle (comment.getD "")).toList := by
      rw [← String.toList_append, ← String.toList_append, ← String.toList_append]
      rfl
    have tokens : commentTokens .oracle table comment =
        [.word "COMMENT", .word "ON", .word "TABLE"] ++ table ++ [.word "IS"] ++
          [.literal (comment.getD "")] := by simp [commentTokens]
    rw [sql, tokens]
    exact ((on.append_lexes named).append_separates clause).append_lexes text

theorem lexes_nullClause {text : String} {tokens : List Token} (lexed : Lexes mode text.toList tokens)
    (nullable : Bool) :
    Lexes mode (if (nullClause mode nullable).isEmpty then text
      else text ++ " " ++ nullClause mode nullable).toList (tokens ++ nullTokens mode nullable) := by
  have clause : Lexes mode (nullClause mode nullable).toList (nullTokens mode nullable) :=
    lex_eq_some.mp (by cases mode <;> cases nullable <;> decide)
  split
  next empty =>
    have none : nullTokens mode nullable = [] := by
      cases mode <;> cases nullable <;> first | rfl | exact absurd empty (by decide)
    rw [none, List.append_nil]
    exact lexed
  next =>
    rw [String.toList_append, String.toList_append]
    have separated := lexed.append_separates (separates_blank mode)
    rw [List.append_nil] at separated
    exact separated.append_lexes clause

end Sql

namespace Connector

variable (connector : Connector)

def columnTokens (column : ColumnDefinition) : Except Error (List Token) := do
  let written ← connector.writeMapping column.type
  return [.name (connector.remoteName column.name)] ++ written.dataType.tokens ++
    nullTokens connector.mode column.nullable

variable {connector}

theorem lexes_columnSql {column : ColumnDefinition} {text : String}
    (h : connector.columnSql column = .ok text) :
    ∃ tokens, connector.columnTokens column = .ok tokens ∧
      Lexes connector.mode text.toList tokens := by
  unfold columnSql at h
  dsimp only at h
  split at h
  · cases h
  obtain ⟨name, quotes, h⟩ := bind_eq_ok.mp h
  obtain ⟨written, writes, h⟩ := bind_eq_ok.mp h
  cases h
  refine ⟨_, bind_eq_ok.mpr ⟨written, writes, rfl⟩, ?_⟩
  have separated := (lexes_quoteName quotes).append_separates (separates_blank connector.mode)
  have typed := separated.append_lexes (DataType.lexes_sql connector.mode written.dataType)
  rw [← String.toList_append, ← String.toList_append, List.append_nil] at typed
  exact lexes_nullClause typed column.nullable

theorem lexes_columns {columns : List ColumnDefinition} {texts : List String}
    (h : columns.mapM connector.columnSql = .ok texts) :
    ∃ tokens, columns.mapM connector.columnTokens = .ok tokens ∧
      LexesApart connector.mode ((", ".intercalate texts).toList ++ [')'])
        ([.symbol ','].intercalate tokens ++ [.symbol ')']) :=
  lexes_listed (fun _ _ => lexes_columnSql) h

def newTableTokens (connector : Connector) (table : TableDefinition) : List Token :=
  tableTokens none (table.schema.map connector.remoteName) (connector.remoteName table.name)

theorem lexes_create {quoted : String} {named : List Token} {texts : List String}
    {columns : List (List Token)} (table : Lexes connector.mode quoted.toList named)
    (listed : LexesApart connector.mode ((", ".intercalate texts).toList ++ [')'])
      ([.symbol ','].intercalate columns ++ [.symbol ')'])) :
    lex connector.mode (s!"CREATE TABLE {quoted} (" ++ ", ".intercalate texts ++ ")") =
      some (createTokens named columns) := by
  have create : LexesApart connector.mode "CREATE TABLE ".toList [.word "CREATE", .word "TABLE"] := by
    cases connector.mode <;> decide
  have opening : Separates connector.mode " (".toList [.symbol '('] := by cases connector.mode <;> decide
  have head := (create.append_lexes table).append_separates opening
  have sql : (s!"CREATE TABLE {quoted} (" ++ ", ".intercalate texts ++ ")").toList =
      "CREATE TABLE ".toList ++ quoted.toList ++ " (".toList ++
        ((", ".intercalate texts).toList ++ [')']) := by
    simp [-String.toList_intercalate]
  have tokens : createTokens named columns = [.word "CREATE", .word "TABLE"] ++ named ++ [.symbol '('] ++
      ([.symbol ','].intercalate columns ++ [.symbol ')']) := (List.append_assoc ..).symm
  rw [lex_eq_some, sql, tokens]
  exact (head.append listed).lexes

/-- The statement that creates a table has its columns in order, and the one that sets its comment has
the same table name. -/
theorem lex_createTable {table : TableDefinition} {statements : List String}
    (h : connector.createTable table = .ok statements) :
    ∃ columns, table.columns.mapM connector.columnTokens = .ok columns ∧
      statements.map (lex connector.mode) =
        (createTokens (connector.newTableTokens table) columns ::
          table.comment.toList.map fun comment =>
            commentTokens connector.mode (connector.newTableTokens table) (some comment)).map some := by
  unfold createTable at h
  dsimp only at h
  split at h
  · cases h
  split at h
  · cases h
  obtain ⟨quoted, quotes, h⟩ := bind_eq_ok.mp h
  obtain ⟨texts, written, h⟩ := bind_eq_ok.mp h
  obtain ⟨columns, listed, lexed⟩ := lexes_columns written
  have named : Lexes connector.mode quoted.toList (connector.newTableTokens table) :=
    lexes_qualifiedName quotes
  have create := lexes_create named lexed
  refine ⟨columns, listed, ?_⟩
  split at h
  next absent =>
    cases h
    rw [absent]
    simpa using create
  next comment present =>
    cases h
    have commented := lex_eq_some.mpr (lexes_tableComment named (some comment))
    rw [present]
    simpa using ⟨create, commented⟩

end Connector

/-- Only statements that are meant are run, and an operation that succeeds has run one, as its last call. -/
structure Operation.Performs (meant : String → Prop) (operation : Operation Unit) : Prop where
  only : operation.Executes meant
  last : ∀ connection before, (operation connection before).1 = .ok () → ∃ looked sql,
    (operation connection before).2 = looked ++ [.execute sql] ∧ Call.statements looked = [] ∧ meant sql

theorem Operation.Executes.performs {meant : String → Prop} {operation : Operation Unit}
    (executes : operation.Executes meant) (concludes : operation.Concludes) :
    operation.Performs meant := by
  refine ⟨executes, fun connection before succeeded => ?_⟩
  have ends := concludes connection before
  rw [succeeded] at ends
  generalize made : (operation connection before).2 = calls at ends
  cases ends with
  | @done looked sql _ silent =>
    have member : Call.execute sql ∈ (operation connection before).2 := by simp [made]
    exact ⟨looked, sql, rfl, silent, executes connection before sql member⟩

theorem Operation.Performs.meant_of_mem {meant : String → Prop} {operation : Operation Unit}
    {connection : Connection} {before calls : List Call} {outcome : Except Error Unit} {sql : String}
    (performs : operation.Performs meant) (ran : operation connection before = (outcome, calls))
    (member : .execute sql ∈ calls) : meant sql :=
  performs.only connection before sql (by rwa [ran])

namespace Connector

theorem executes_named {mode : Mode} {words : String} {tokens : List Token} (name : String)
    (head : LexesApart mode words.toList tokens) :
    Operation.Executes (fun sql => lex mode sql = some (tokens ++ [.name name]))
      (liftM (quoteName mode name) >>= fun quoted => Operation.execute (words ++ quoted)) := by
  refine Operation.executes_lift fun quoted quotes => Operation.executes_execute ?_
  rw [lex_eq_some, String.toList_append]
  exact head.append_lexes (lexes_quoteName quotes)

theorem executes_createSchema (connector : Connector) (schema : String) :
    Operation.Executes (fun sql => lex connector.mode sql =
      some [.word "CREATE", .word "SCHEMA", .name (connector.remoteName schema)])
      (connector.createSchema schema) := by
  have head : LexesApart connector.mode "CREATE SCHEMA ".toList [.word "CREATE", .word "SCHEMA"] := by
    cases connector.mode <;> decide
  unfold createSchema
  split
  · exact Operation.executes_fail _
  · exact executes_named (connector.remoteName schema) head

theorem executes_dropSchema (connector : Connector) (schema : String) (cascade : Bool) :
    Operation.Executes (fun sql => lex connector.mode sql =
      some [.word "DROP", .word "SCHEMA", .name (connector.remoteName schema)])
      (connector.dropSchema schema cascade) := by
  have head : LexesApart connector.mode "DROP SCHEMA ".toList [.word "DROP", .word "SCHEMA"] := by
    cases connector.mode <;> decide
  have drops := executes_named (connector.remoteName schema) head
  unfold dropSchema
  dsimp only
  split
  · exact Operation.executes_fail _
  split
  · -- The tables are looked up first, and none must be found.
    refine Operation.executes_bind ?_ fun tables _ => ?_
    · exact Operation.executes_bind Operation.executes_escape fun _ _ => Operation.executes_getTables _
    · split
      · exact Operation.executes_bind (Operation.executes_fail _) fun _ _ => drops
      · exact drops
  · exact drops

theorem executes_setTableComment (connector : Connector) (table : RemoteTable)
    (comment : Option String) :
    Operation.Executes (fun sql => lex connector.mode sql =
      some (commentTokens connector.mode (tableTokens table.catalog table.schema table.table) comment))
      (connector.setTableComment table comment) := by
  unfold setTableComment
  refine Operation.executes_lift fun _ quotes => Operation.executes_execute ?_
  exact lex_eq_some.mpr (lexes_tableComment (lexes_qualifiedName quotes) comment)

theorem executes_renameTable (connector : Connector) (table : RemoteTable) (schema : Option String)
    (name : String) :
    Operation.Executes (fun sql => lex connector.mode sql =
      some ([.word "ALTER", .word "TABLE"] ++ tableTokens table.catalog table.schema table.table ++
        [.word "RENAME", .word "TO", .name (connector.remoteName name)]))
      (connector.renameTable table schema name) := by
  have rename : Separates connector.mode " RENAME TO ".toList [.word "RENAME", .word "TO"] := by
    cases connector.mode <;> decide
  unfold renameTable
  dsimp only
  split
  · exact Operation.executes_fail _
  refine Operation.executes_lift fun quoted quotes => ?_
  refine Operation.executes_lift fun newName quotesName => Operation.executes_execute ?_
  have altered := (lexesApart_alterTable connector.mode).append_lexes (lexes_qualifiedName quotes)
  have head := altered.append_separates rename
  have statement := head.append_lexes (lexes_quoteName quotesName)
  rw [← String.toList_append, ← String.toList_append, ← String.toList_append, List.append_assoc] at statement
  exact lex_eq_some.mpr statement

theorem executes_renameColumn (connector : Connector) (table : RemoteTable) (column name : String) :
    Operation.Executes (fun sql => lex connector.mode sql =
      some ([.word "ALTER", .word "TABLE"] ++ tableTokens table.catalog table.schema table.table ++
        [.word "RENAME", .word "COLUMN", .name column, .word "TO", .name name]))
      (connector.renameColumn table column name) := by
  have rename : Separates connector.mode " RENAME COLUMN ".toList [.word "RENAME", .word "COLUMN"] := by
    cases connector.mode <;> decide
  have into : Separates connector.mode " TO ".toList [.word "TO"] := by cases connector.mode <;> decide
  unfold renameColumn
  refine Operation.executes_lift fun quoted quotes => ?_
  refine Operation.executes_lift fun oldName quotesOld => ?_
  refine Operation.executes_lift fun newName quotesNew => Operation.executes_execute ?_
  have altered := (lexesApart_alterTable connector.mode).append_lexes (lexes_qualifiedName quotes)
  have head := altered.append_separates rename
  have renamed := (head.append_lexes (lexes_quoteName quotesOld)).append_separates into
  have statement := renamed.append_lexes (lexes_quoteName quotesNew)
  rw [← String.toList_append, ← String.toList_append, ← String.toList_append, ← String.toList_append,
    ← String.toList_append] at statement
  simp only [List.append_assoc, List.cons_append, List.nil_append] at statement
  simp only [lex_eq_some, List.cons_append, List.nil_append]
  exact statement

/-- Every statement that defines, drops, renames or comments is read as the tokens it is meant to have. In
both modes, and for all names and texts, no part of a name or comment is read outside of its token. What
succeeds has run the statement that is meant. -/
theorem statements_read_as_meant (connector : Connector) :
    (∀ table statements, connector.createTable table = .ok statements →
      ∃ columns, table.columns.mapM connector.columnTokens = .ok columns ∧
        statements.map (lex connector.mode) =
          (createTokens (connector.newTableTokens table) columns ::
            table.comment.toList.map fun comment =>
              commentTokens connector.mode (connector.newTableTokens table) (some comment)).map some) ∧
    (∀ schema, (connector.createSchema schema).Performs fun sql => lex connector.mode sql =
      some [.word "CREATE", .word "SCHEMA", .name (connector.remoteName schema)]) ∧
    (∀ schema cascade, (connector.dropSchema schema cascade).Performs fun sql => lex connector.mode sql =
      some [.word "DROP", .word "SCHEMA", .name (connector.remoteName schema)]) ∧
    (∀ table comment, (connector.setTableComment table comment).Performs fun sql =>
      lex connector.mode sql =
        some (commentTokens connector.mode (tableTokens table.catalog table.schema table.table) comment)) ∧
    (∀ table schema name, (connector.renameTable table schema name).Performs fun sql =>
      lex connector.mode sql =
        some ([.word "ALTER", .word "TABLE"] ++ tableTokens table.catalog table.schema table.table ++
          [.word "RENAME", .word "TO", .name (connector.remoteName name)])) ∧
    (∀ table column name, (connector.renameColumn table column name).Performs fun sql =>
      lex connector.mode sql =
        some ([.word "ALTER", .word "TABLE"] ++ tableTokens table.catalog table.schema table.table ++
          [.word "RENAME", .word "COLUMN", .name column, .word "TO", .name name])) := by
  refine ⟨fun _ _ created => lex_createTable created, fun schema => ?_, fun schema cascade => ?_,
    fun table comment => ?_, fun table schema name => ?_, fun table column name => ?_⟩
  · exact (executes_createSchema connector schema).performs (concludes_createSchema connector schema)
  · exact (executes_dropSchema connector schema cascade).performs (concludes_dropSchema connector schema cascade)
  · exact (executes_setTableComment connector table comment).performs (concludes_setTableComment connector table comment)
  · exact (executes_renameTable connector table schema name).performs (concludes_renameTable connector table schema name)
  · exact (executes_renameColumn connector table column name).performs
      (concludes_renameColumn connector table column name)

def emptyBackend : Connection :=
  ⟨"\\", fun _ => .ok [], fun _ => .ok [], fun _ _ => .ok [], fun _ _ => .ok 0⟩

/-- Quotes, a semicolon and a closing backslash, which would otherwise end a name or escape the quote, in
statements of both modes; a schema is looked into before it is dropped. -/
theorem statements_read_as_meant_quotes :
    ((ofMode .mysql).createTable ⟨some "s", "t`; D", [⟨"a`b", .integer, false, none⟩,
        ⟨"c", .varchar (some 10), true, none⟩], some "it's \\", []⟩ =
      .ok ["CREATE TABLE `s`.`t``; D` (`a``b` integer NOT NULL, `c` tinytext NULL)",
        "ALTER TABLE `s`.`t``; D` COMMENT 'it''s \\\\'"] ∧
    ["CREATE TABLE `s`.`t``; D` (`a``b` integer NOT NULL, `c` tinytext NULL)",
        "ALTER TABLE `s`.`t``; D` COMMENT 'it''s \\\\'"].map (lex .mysql) =
      [some (createTokens [.name "s", .symbol '.', .name "t`; D"]
          [[.name "a`b", .word "integer", .word "NOT", .word "NULL"],
            [.name "c", .word "tinytext", .word "NULL"]]),
        some (commentTokens .mysql [.name "s", .symbol '.', .name "t`; D"] (some "it's \\"))]) ∧
    ((ofMode .mysql).createSchema "a`; b" emptyBackend [] =
        (.ok (), [.execute "CREATE SCHEMA `a``; b`"]) ∧
      lex .mysql "CREATE SCHEMA `a``; b`" = some [.word "CREATE", .word "SCHEMA", .name "a`; b"]) ∧
    ((ofMode .mysql).dropSchema "a`; b" false emptyBackend [] =
        (.ok (), [.getTables ⟨some "a`; b", none, none⟩, .execute "DROP SCHEMA `a``; b`"]) ∧
      lex .mysql "DROP SCHEMA `a``; b`" = some [.word "DROP", .word "SCHEMA", .name "a`; b"]) ∧
    ((ofMode .oracle).setTableComment ⟨none, some "S", "T\" --"⟩ (some "it's \\") emptyBackend [] =
        (.ok (), [.execute "COMMENT ON TABLE \"S\".\"T\"\" --\" IS 'it''s \\'"]) ∧
      lex .oracle "COMMENT ON TABLE \"S\".\"T\"\" --\" IS 'it''s \\'" =
        some [.word "COMMENT", .word "ON", .word "TABLE", .name "S", .symbol '.', .name "T\" --",
          .word "IS", .literal "it's \\"]) ∧
    ((ofMode .oracle).renameTable ⟨none, some "S", "T\" --"⟩ none "u\"" emptyBackend [] =
        (.ok (), [.execute "ALTER TABLE \"S\".\"T\"\" --\" RENAME TO \"U\"\"\""]) ∧
      lex .oracle "ALTER TABLE \"S\".\"T\"\" --\" RENAME TO \"U\"\"\"" =
        some [.word "ALTER", .word "TABLE", .name "S", .symbol '.', .name "T\" --", .word "RENAME",
          .word "TO", .name "U\""]) ∧
    ((ofMode .oracle).renameColumn ⟨none, some "S", "T"⟩ "c\" TO" "d\"" emptyBackend [] =
        (.ok (), [.execute "ALTER TABLE \"S\".\"T\" RENAME COLUMN \"c\"\" TO\" TO \"d\"\"\""]) ∧
      lex .oracle "ALTER TABLE \"S\".\"T\" RENAME COLUMN \"c\"\" TO\" TO \"d\"\"\"" =
        some [.word "ALTER", .word "TABLE", .name "S", .symbol '.', .name "T", .word "RENAME",
          .word "COLUMN", .name "c\" TO", .word "TO", .name "d\""]) := by
  have created : (ofMode .mysql).createTable ⟨some "s", "t`; D", [⟨"a`b", .integer, false, none⟩,
        ⟨"c", .varchar (some 10), true, none⟩], some "it's \\", []⟩ =
      .ok ["CREATE TABLE `s`.`t``; D` (`a``b` integer NOT NULL, `c` tinytext NULL)",
        "ALTER TABLE `s`.`t``; D` COMMENT 'it''s \\\\'"] := by rfl
  have founded : (ofMode .mysql).createSchema "a`; b" emptyBackend [] =
      (.ok (), [.execute "CREATE SCHEMA `a``; b`"]) := rfl
  have dropped : (ofMode .mysql).dropSchema "a`; b" false emptyBackend [] =
      (.ok (), [.getTables ⟨some "a`; b", none, none⟩, .execute "DROP SCHEMA `a``; b`"]) := rfl
  have commented : (ofMode .oracle).setTableComment ⟨none, some "S", "T\" --"⟩ (some "it's \\")
      emptyBackend [] =
        (.ok (), [.execute "COMMENT ON TABLE \"S\".\"T\"\" --\" IS 'it''s \\'"]) := rfl
  have renamed : (ofMode .oracle).renameTable ⟨none, some "S", "T\" --"⟩ none "u\"" emptyBackend [] =
      (.ok (), [.execute "ALTER TABLE \"S\".\"T\"\" --\" RENAME TO \"U\"\"\""]) := rfl
  have moved : (ofMode .oracle).renameColumn ⟨none, some "S", "T"⟩ "c\" TO" "d\"" emptyBackend [] =
      (.ok (), [.execute "ALTER TABLE \"S\".\"T\" RENAME COLUMN \"c\"\" TO\" TO \"d\"\"\""]) := rfl
  obtain ⟨creates, founds, drops, -⟩ := statements_read_as_meant (ofMode .mysql)
  obtain ⟨-, -, -, comments, renames, moves⟩ := statements_read_as_meant (ofMode .oracle)
  obtain ⟨columns, listed, read⟩ := creates _ _ created
  cases listed
  exact ⟨⟨created, read⟩, ⟨founded, (founds _).meant_of_mem founded (by simp)⟩,
    ⟨dropped, (drops _ _).meant_of_mem dropped (by simp)⟩,
    ⟨commented, (comments _ _).meant_of_mem commented (by simp)⟩,
    ⟨renamed, (renames _ _ _).meant_of_mem renamed (by simp)⟩,
    ⟨moved, (moves _ _ _).meant_of_mem moved (by simp)⟩⟩

end Connector

end TypeBridge
