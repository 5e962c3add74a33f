import TypeBridge.Power

/-!
Decimal numbers with a scale: a coefficient below two to the power of 96, a sign, and the number of
digits after the point. The scale is part of the number, so `1.5` and `1.50` differ. Zero has no sign.
What is read has a scale of at most 28; only added zeros go beyond.
-/
namespace TypeBridge

structure Decimal where
  negative : Bool
  coefficient : Nat
  scale : Nat
  coefficient_lt : coefficient < twoTo 96
  zero_unsigned : coefficient = 0 → negative = false
  deriving DecidableEq

namespace Decimal

def maxCoefficient : Nat := twoTo 96 - 1

def maxScale : Nat := 28

/-- The number with these parts, when the coefficient is in range; the sign of a zero is dropped. -/
def make? (negative : Bool) (coefficient scale : Nat) : Option Decimal :=
  if bound : coefficient < twoTo 96 then
    some ⟨negative && coefficient != 0, coefficient, scale, bound, by intro zero; simp [zero]⟩
  else none

def zero : Decimal := ⟨false, 0, 0, by decide, fun _ => rfl⟩

def ofInt64 (value : Int64) : Decimal where
  negative := decide (value.toInt < 0)
  coefficient := value.toInt.natAbs
  scale := 0
  coefficient_lt := by
    have low := Int64.le_toInt value
    have high := Int64.toInt_lt value
    have bound : twoTo 96 = 79228162514264337593543950336 := rfl
    omega
  zero_unsigned := by
    intro zero
    simp only [decide_eq_false_iff_not]
    omega

def isZero (value : Decimal) : Bool := value.coefficient == 0

def signedCoefficient (value : Decimal) : Int :=
  if value.negative then -(value.coefficient : Int) else value.coefficient

def integerPart (value : Decimal) : Nat := value.coefficient / tenTo value.scale

/-- More zeros after the point, as many of `steps` as the coefficient leaves room for. A zero, which
leaves room for any number, stops at 28. -/
def extend (value : Decimal) : Nat → Decimal
  | 0 => value
  | steps + 1 =>
    if value.isZero && maxScale ≤ value.scale then value
    else
      match make? value.negative (value.coefficient * 10) (value.scale + 1) with
      | some extended => extended.extend steps
      | none => value

theorem make?_eq_some {negative : Bool} {coefficient scale : Nat} {value : Decimal}
    (h : make? negative coefficient scale = some value) :
    value.coefficient = coefficient ∧ value.scale = scale ∧
      value.negative = (negative && coefficient != 0) := by
  unfold make? at h
  split at h
  · cases h; exact ⟨rfl, rfl, rfl⟩
  · cases h

end Decimal

end TypeBridge
