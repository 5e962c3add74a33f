import TypeBridge.Json.Value

/-!
Records in JSON values. A record has named fields: an object gives them by name, each at most once and
among others that do not matter, and an array gives all of them in order.
-/
namespace TypeBridge.Json

/-- The value of a member that must not be repeated, if there is one. -/
def member? (name : String) (members : List (String × Json)) : Option (Option Json) :=
  match members.filter (·.1 == name) with
  | [] => some none
  | [(_, value)] => some (some value)
  | _ => none

def fields? (names : List String) : Json → Option (List (Option Json))
  | array items => if items.length = names.length then some (items.map some) else none
  | object members => names.mapM fun name => member? name members
  | _ => none

def text? : Json → Option String
  | string value => some value
  | _ => none

def integerIn? (low high : Int) : Json → Option Int
  | integer value => if low ≤ value ∧ value < high then some value else none
  | _ => none

def naturalBelow? (bound : Nat) (value : Json) : Option Nat :=
  (value.integerIn? 0 bound).map Int.toNat

end TypeBridge.Json
