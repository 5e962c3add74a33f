import TypeBridge.Sql.Dialect
import TypeBridge.Value.Logical

/-!
Rewriting predicates into statements of the backend. Only comparisons of numbers are rewritten, since text
compares by the collation of the backend; an expression with a part that has no rule is left to the
engine as a whole. Constants become parameters in the order in which their marks stand.
-/
namespace TypeBridge

/-- A column as a predicate or an aggregate refers to it. -/
structure ColumnRef where
  name : String
  type : LogicalType
  handle : Descriptor
  deriving DecidableEq

inductive Comparison where
  | equal
  | notEqual
  | less
  | lessOrEqual
  | greater
  | greaterOrEqual
  deriving DecidableEq

def Comparison.sql : Comparison → String
  | equal => "="
  | notEqual => "<>"
  | less => "<"
  | lessOrEqual => "<="
  | greater => ">"
  | greaterOrEqual => ">="

inductive Expression where
  | column (reference : ColumnRef)
  | constant (type : LogicalType) (value : LogicalValue)
  | comparison (operator : Comparison) (left right : Expression)
  | conjunction (terms : List Expression)
  | disjunction (terms : List Expression)

def Expression.type : Expression → LogicalType
  | .column reference => reference.type
  | .constant type _ => type
  | .comparison _ _ _ | .conjunction _ | .disjunction _ => .boolean

structure Parameter where
  type : LogicalType
  value : LogicalValue
  deriving DecidableEq

/-- A piece of a statement and the parameters of its marks, in order. -/
structure Fragment where
  sql : String
  parameters : List Parameter
  deriving DecidableEq

namespace Fragment

def compare (operator : Comparison) (left right : Fragment) : Fragment :=
  ⟨s!"({left.sql}) {operator.sql} ({right.sql})", left.parameters ++ right.parameters⟩

def join (keyword : String) (terms : List Fragment) : Fragment :=
  ⟨"(" ++ (") " ++ keyword ++ " (").intercalate (terms.map (·.sql)) ++ ")",
    terms.flatMap (·.parameters)⟩

end Fragment

namespace Predicate

def isBindable : LogicalType → Bool
  | .decimal _ _ | .varchar _ => true
  | type => type.isInteger

mutual

/-- The fragment of an expression, if all of it has a rule. -/
def rewrite (mode : Mode) : Expression → Except Error (Option Fragment)
  | .column reference => do return some ⟨← Sql.quoteName mode reference.name, []⟩
  | .constant type value =>
    if !value.isNull && isBindable type then .ok (some ⟨"?", [⟨type, value⟩]⟩) else .ok none
  | .comparison operator left right =>
    if left.type.isNumeric && right.type.isNumeric then do
      let some left ← rewrite mode left | return none
      let some right ← rewrite mode right | return none
      return some (Fragment.compare operator left right)
    else .ok none
  | .conjunction terms =>
    if terms.length < 2 then .ok none
    else do return (← rewriteTerms mode terms).map (Fragment.join "AND")
  | .disjunction terms =>
    if terms.length < 2 then .ok none
    else do return (← rewriteTerms mode terms).map (Fragment.join "OR")

/-- The fragments of all terms; the first term without a rule, or in error, decides. -/
def rewriteTerms (mode : Mode) : List Expression → Except Error (Option (List Fragment))
  | [] => .ok (some [])
  | term :: rest => do
    let some fragment ← rewrite mode term | return none
    return (← rewriteTerms mode rest).map (fragment :: ·)

end

end Predicate

end TypeBridge
