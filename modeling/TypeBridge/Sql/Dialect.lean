import TypeBridge.Sql.Name

/-!
What the two modes write differently: names, limits, order, comments and clauses.
-/
namespace TypeBridge

inductive SortOrder where
  | ascNullsFirst
  | ascNullsLast
  | descNullsFirst
  | descNullsLast
  deriving DecidableEq

namespace SortOrder

def isAscending : SortOrder → Bool
  | ascNullsFirst | ascNullsLast => true
  | descNullsFirst | descNullsLast => false

end SortOrder

structure SortItem where
  column : String
  type : LogicalType
  order : SortOrder
  deriving DecidableEq

namespace Sql

/-- A table name with its schema, or else its catalog, in front; empty parts are left out. -/
def qualifiedName (mode : Mode) (catalog schema : Option String) (table : String) :
    Except Error String :=
  let present := fun (part : Option String) => part.filter (!·.isEmpty)
  match (present schema).or (present catalog) with
  | some qualifier => do
    let qualifier ← quoteName mode qualifier
    return qualifier ++ "." ++ (← quoteName mode table)
  | none => quoteName mode table

def remoteName (mode : Mode) (name : String) : String :=
  match mode with
  | .mysql => name
  | .oracle => Text.uppered name

def internalSchemas : Mode → List String
  | .mysql => ["information_schema", "mysql", "oceanbase"]
  | .oracle => ["SYS", "LBACSYS", "ORAAUDITOR"]

def foldSchema (mode : Mode) (schema : String) : String :=
  match mode with
  | .mysql => Text.lowered schema
  | .oracle => Text.uppered schema

def showsSchema (mode : Mode) (schema : String) : Bool :=
  !(internalSchemas mode).contains (foldSchema mode schema)

def schemaColumn : Mode → String
  | .mysql => "TABLE_CAT"
  | .oracle => "TABLE_SCHEM"

def limit (mode : Mode) (sql : String) (count : Nat) : String :=
  match mode with
  | .mysql => s!"{sql} LIMIT {Text.numberText count}"
  | .oracle => s!"SELECT * FROM ({sql}) WHERE ROWNUM <= {Text.numberText count}"

def limitIsGuaranteed : Mode → Bool
  | .mysql | .oracle => true

/-- A key of an order: a column, or the test whether it is null. -/
structure OrderKey where
  column : String
  nullTest : Bool
  ascending : Bool
  deriving DecidableEq

/-- The keys of one item. Nulls come first in ascending and last in descending order; any other place
takes a null test in front. -/
def orderKeys (item : SortItem) : List OrderKey :=
  let value : OrderKey := ⟨item.column, false, item.order.isAscending⟩
  match item.order with
  | .ascNullsFirst | .descNullsLast => [value]
  | .ascNullsLast => [⟨item.column, true, true⟩, value]
  | .descNullsFirst => [⟨item.column, true, false⟩, value]

def OrderKey.sql (mode : Mode) (key : OrderKey) : Except Error String := do
  let column ← quoteName mode key.column
  let tested := if key.nullTest then s!"ISNULL({column})" else column
  return tested ++ (if key.ascending then " ASC" else " DESC")

def supportsTopN (mode : Mode) (items : List SortItem) : Bool :=
  match mode with
  | .mysql => items.all (!·.type.isTextual)
  | .oracle => false

def topN (mode : Mode) (sql : String) (items : List SortItem) (count : Nat) : Except Error String :=
  match mode with
  | .mysql => do
    let keys ← (items.flatMap orderKeys).mapM (OrderKey.sql mode)
    return s!"{sql} ORDER BY " ++ ", ".intercalate keys ++ s!" LIMIT {Text.numberText count}"
  | .oracle => .error (.notSupported .topN)

def topNIsGuaranteed : Mode → Except Error Bool
  | .mysql => .ok true
  | .oracle => .error (.notSupported .topNGuarantee)

/-- Text is not joined where the engine and the backend may compare it differently. -/
def supportsJoin (mode : Mode) (left right : LogicalType) : Bool :=
  match mode with
  | .mysql => !left.isTextual && !right.isTextual
  | .oracle => true

def hasSchemaStatements : Mode → Bool
  | .mysql => true
  | .oracle => false

def tableComment (mode : Mode) (quotedTable : String) (comment : Option String) : String :=
  let comment := literal mode (comment.getD "")
  match mode with
  | .mysql => s!"ALTER TABLE {quotedTable} COMMENT {comment}"
  | .oracle => s!"COMMENT ON TABLE {quotedTable} IS {comment}"

def nullClause (mode : Mode) (nullable : Bool) : String :=
  match mode, nullable with
  | _, false => "NOT NULL"
  | .mysql, true => "NULL"
  | .oracle, true => ""

end Sql

end TypeBridge
