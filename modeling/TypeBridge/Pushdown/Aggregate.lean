import TypeBridge.Pushdown.Predicate

/-!
Rewriting aggregates into statements of the backend, with the driver type by which the result is read.
-/
namespace TypeBridge

inductive AggregateFunction where
  | count
  | min
  | max
  | sum
  | avg
  | stddevSamp
  | stddevPop
  | varSamp
  | varPop
  | covarSamp
  | covarPop
  deriving DecidableEq

namespace AggregateFunction

def sql : AggregateFunction → String
  | count => "count"
  | min => "min"
  | max => "max"
  | sum => "sum"
  | avg => "avg"
  | stddevSamp => "stddev_samp"
  | stddevPop => "stddev_pop"
  | varSamp => "var_samp"
  | varPop => "var_pop"
  | covarSamp => "covar_samp"
  | covarPop => "covar_pop"

def all : List AggregateFunction :=
  [count, min, max, sum, avg, stddevSamp, stddevPop, varSamp, varPop, covarSamp, covarPop]

def ofName? (name : String) : Option AggregateFunction :=
  match Text.lowered name with
  | "stddev" => some stddevSamp
  | "variance" => some varSamp
  | folded => all.find? (·.sql == folded)

def isStatistical : AggregateFunction → Bool
  | stddevSamp | stddevPop | varSamp | varPop => true
  | _ => false

def isCovariance : AggregateFunction → Bool
  | covarSamp | covarPop => true
  | _ => false

end AggregateFunction

structure AggregateCall where
  function : AggregateFunction
  arguments : List ColumnRef
  distinct : Bool

structure AggregateExpression where
  sql : String
  resultType : Descriptor
  deriving DecidableEq

namespace AggregateCall

def bigIntHandle : Descriptor := .ofType .bigInt "bigint"

def doubleHandle : Descriptor := .ofType .double "double"

def signedWord (value : Nat) : Int := Int.bmod value (twoTo 32)

/-- The type of a decimal. Descriptors hold signed words, so that a greater scale wraps around. -/
def decimalHandle (precision scale : Nat) : Descriptor :=
  ((Descriptor.ofType .numeric "decimal").withSize (signedWord precision)).withDigits
    (signedWord scale)

def apply (mode : Mode) (function : AggregateFunction) (columns : List ColumnRef) :
    Except Error String := do
  let names ← columns.mapM fun column => Sql.quoteName mode column.name
  return function.sql ++ "(" ++ ", ".intercalate names ++ ")"

def sumHandle? : LogicalType → Option Descriptor
  | .decimal _ scale => some (decimalHandle LogicalType.maxDecimalPrecision scale)
  | type =>
    if type.isInteger then some bigIntHandle
    else if type.isFloating then some doubleHandle
    else none

def rewriteCount (mode : Mode) (arguments : List ColumnRef) (distinct : Bool) :
    Except Error (Option AggregateExpression) :=
  match arguments, distinct with
  | [], false => .ok (some ⟨"count(*)", bigIntHandle⟩)
  | [column], distinct => do
    let name ← Sql.quoteName mode column.name
    return some ⟨(if distinct then "count(DISTINCT " else "count(") ++ name ++ ")", bigIntHandle⟩
  | _, _ => .ok none

def rewriteAverage (mode : Mode) (column : ColumnRef) :
    Except Error (Option AggregateExpression) :=
  match column.type with
  | .real | .double => do return some ⟨← apply mode .avg [column], column.handle⟩
  | .decimal precision scale => do
    let average ← apply mode .avg [column]
    let type := s!"decimal({Text.numberText precision}, {Text.numberText scale})"
    return some ⟨s!"CAST({average} AS {type})", column.handle⟩
  | _ => .ok none

def rewrite (mode : Mode) (call : AggregateCall) : Except Error (Option AggregateExpression) :=
  match call.function, call.arguments with
  | .count, arguments => rewriteCount mode arguments call.distinct
  | function, arguments =>
    if call.distinct then .ok none
    else
      match function, arguments with
      | .sum, [column] =>
        match sumHandle? column.type with
        | some handle => do return some ⟨← apply mode .sum [column], handle⟩
        | none => .ok none
      | .avg, [column] => rewriteAverage mode column
      | function, [column] =>
        if (function = .min ∨ function = .max) ∧ !column.type.isTextual ∨
            function.isStatistical ∧ column.type.isFloating then do
          return some ⟨← apply mode function [column], column.handle⟩
        else .ok none
      | function, [first, second] =>
        if function.isCovariance ∧ first.type = .double ∧ second.type = .double then do
          return some ⟨← apply mode function [first, second], first.handle⟩
        else .ok none
      | _, _ => .ok none

/-- Grouping by text stays in the engine. -/
def supportsGrouping (sets : List (List ColumnRef)) : Bool :=
  sets.all (·.all (!·.type.isTextual))

end AggregateCall

end TypeBridge
