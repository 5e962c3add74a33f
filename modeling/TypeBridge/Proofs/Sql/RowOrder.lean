import Mathlib.Order.Compare
import Mathlib.Order.Defs.LinearOrder
import TypeBridge.Sql.Dialect

/-!
How rows are ordered. An item asks for a direction and a place of nulls. A key knows only the direction: nulls
come before all values, so they are first in ascending and last in descending order, and a null test is a
number. The keys of an item, one after the other, decide as the item asks, and the keys of a list of items
decide as the items do in turn.
-/
namespace TypeBridge

universe u

/-- Each column with null or a value, of a type of its own. -/
abbrev Row (Value : String → Type u) : Type u := (column : String) → Option (Value column)

def firstDifference (outcomes : List Ordering) : Ordering := outcomes.foldr Ordering.then .eq

section

variable {α : Type u} [LinearOrder α]

def compareNullsFirst : Option α → Option α → Ordering
  | none, none => .eq
  | none, some _ => .lt
  | some _, none => .gt
  | some value, some other => Ord.compare value other

/-- Null against a value has a fixed outcome; values have an order of their own. -/
def compareWith (null : Ordering) (values : α → α → Ordering) : Option α → Option α → Ordering
  | none, none => .eq
  | none, some _ => null
  | some _, none => null.swap
  | some value, some other => values value other

def nullFlag (value : Option α) : Nat := if value.isNone then 1 else 0

/-- A column of two rows, with nulls in their place and values in the direction that is asked for. -/
def SortOrder.compare : SortOrder → Option α → Option α → Ordering
  | ascNullsFirst => compareWith .lt fun value other => Ord.compare value other
  | ascNullsLast => compareWith .gt fun value other => Ord.compare value other
  | descNullsFirst => compareWith .lt fun value other => Ord.compare other value
  | descNullsLast => compareWith .gt fun value other => Ord.compare other value

/-- Ascending, nulls are first without a test. A test puts them last, and makes no difference where both
values are null or neither is. -/
theorem compareNullsFirst_ascending (value other : Option α) :
    compareNullsFirst value other = SortOrder.ascNullsFirst.compare value other ∧
      (Ord.compare (nullFlag value) (nullFlag other)).then (compareNullsFirst value other) =
        SortOrder.ascNullsLast.compare value other := by
  cases value <;> cases other <;> exact ⟨rfl, rfl⟩

/-- Descending, nulls are last without a test, and first with one. -/
theorem compareNullsFirst_descending (value other : Option α) :
    (compareNullsFirst value other).swap = SortOrder.descNullsLast.compare value other ∧
      (Ord.compare (nullFlag value) (nullFlag other)).swap.then (compareNullsFirst value other).swap =
        SortOrder.descNullsFirst.compare value other := by
  cases value with
  | none => cases other <;> exact ⟨rfl, rfl⟩
  | some value =>
    cases other with
    | none => exact ⟨rfl, rfl⟩
    | some other => exact ⟨Std.OrientedOrd.eq_swap.symm, Std.OrientedOrd.eq_swap.symm⟩

end

variable {Value : String → Type u} [∀ column, LinearOrder (Value column)]

def SortItem.compare (item : SortItem) (row other : Row Value) : Ordering :=
  item.order.compare (row item.column) (other item.column)

namespace Sql

def OrderKey.compare (key : OrderKey) (row other : Row Value) : Ordering :=
  let outcome := if key.nullTest then
      Ord.compare (nullFlag (row key.column)) (nullFlag (other key.column))
    else compareNullsFirst (row key.column) (other key.column)
  if key.ascending then outcome else outcome.swap

theorem firstDifference_append (first second : List Ordering) :
    firstDifference (first ++ second) = (firstDifference first).then (firstDifference second) := by
  induction first with
  | nil => rfl
  | cons outcome rest ih =>
    rw [List.cons_append, firstDifference, List.foldr_cons, firstDifference, List.foldr_cons,
      Ordering.then_assoc]
    exact congrArg _ ih

theorem firstDifference_orderKeys (item : SortItem) (row other : Row Value) :
    firstDifference ((orderKeys item).map (·.compare row other)) = item.compare row other := by
  obtain ⟨column, type, order⟩ := item
  have ascending := compareNullsFirst_ascending (row column) (other column)
  have descending := compareNullsFirst_descending (row column) (other column)
  cases order with
  | ascNullsFirst => exact Ordering.then_eq.trans ascending.1
  | ascNullsLast => exact (congrArg _ Ordering.then_eq).trans ascending.2
  | descNullsFirst => exact (congrArg _ Ordering.then_eq).trans descending.2
  | descNullsLast => exact Ordering.then_eq.trans descending.1

/-- The keys of several items decide as the items do, one after the other. -/
theorem firstDifference_keys (items : List SortItem) (row other : Row Value) :
    firstDifference ((items.flatMap orderKeys).map (·.compare row other)) =
      firstDifference (items.map (·.compare row other)) := by
  induction items with
  | nil => rfl
  | cons item items ih =>
    rw [List.flatMap_cons, List.map_append, firstDifference_append, firstDifference_orderKeys, ih]
    rfl

end Sql

end TypeBridge
