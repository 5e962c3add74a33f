import TypeBridge.Power

/-!
Rounding to a decimal grid: values that count units of a power of ten are brought to fewer digits, and a
half goes up, toward later times.
-/
namespace TypeBridge.Temporal

/-- The quotient rounded to the nearest whole number, where a half goes up. -/
def roundDiv (value factor : Int) : Int :=
  if factor = 1 then value
  else if 0 ≤ value then (value + factor.tdiv 2).tdiv factor
  else (value + 1 - factor.tdiv 2).tdiv factor

/-- A value in units of ten to the power of minus `digits`, rounded to `precision` digits. -/
def roundToPrecision (value : Int) (digits precision : Nat) : Int :=
  if digits ≤ precision then value
  else
    let factor : Int := tenTo (digits - precision)
    roundDiv value factor * factor

def word? (value : Int) : Option Int64 :=
  if -(twoTo 63 : Int) ≤ value ∧ value < twoTo 63 then some (Int64.ofInt value) else none

end TypeBridge.Temporal
