import TypeBridge.Text.Blank
import TypeBridge.Text.Case

/-!
The SQL dialect a backend tenant speaks.
-/
namespace TypeBridge

inductive Mode where
  | mysql
  | oracle
  deriving DecidableEq

namespace Mode

def name : Mode → String
  | mysql => "mysql"
  | oracle => "oracle"

/-- The most fractional digits of a second that a mode stores. -/
def maxPrecision : Mode → Nat
  | mysql => 6
  | oracle => 9

/-- Blank text stands for the first mode; letter case and surrounding blanks do not matter. -/
def ofText? (text : String) : Option Mode :=
  let trimmed := Text.trim text.toList
  if trimmed.isEmpty then some mysql
  else
    let folded := String.ofList (Text.lowercase trimmed)
    if folded = "mysql" then some mysql else if folded = "oracle" then some oracle else none

end Mode

end TypeBridge
