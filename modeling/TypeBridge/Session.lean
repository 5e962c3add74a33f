import TypeBridge.Decimal.Fit

/-!
How a session reads decimals that a type of the engine may not hold.
-/
namespace TypeBridge

inductive DecimalMapping where
  /-- Columns that do not fit are left out. -/
  | strict
  /-- Columns that do not fit get the widest type and are rounded. -/
  | allowOverflow
  deriving DecidableEq

namespace DecimalMapping

def name : DecimalMapping → String
  | strict => "strict"
  | allowOverflow => "allow-overflow"

def ofName? (text : String) : Option DecimalMapping :=
  [strict, allowOverflow].find? (·.name == text)

end DecimalMapping

structure Session where
  decimalMapping : DecimalMapping
  defaultScale : Nat
  roundingMode : RoundingMode
  deriving DecidableEq

namespace Session

def default : Session := ⟨.strict, 0, .halfUp⟩

def allowsOverflow (session : Session) : Bool := session.decimalMapping == .allowOverflow

end Session

end TypeBridge
