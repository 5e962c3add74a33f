import Mathlib.Algebra.Order.Field.Basic
import Mathlib.Algebra.Order.Field.Rat
import TypeBridge.Proofs.Column.Decoding
import TypeBridge.Proofs.Column.Encoding
import TypeBridge.Proofs.Decimal.Fit

/-!
How great a decimal in a column can be. The digits before the point are counted unless the type leaves
room for 28 or more of them. A coefficient has 29 digits at most, so what is not counted stays within the
type all the same, but for the one type that has 28 digits and none of them after the point.
-/
namespace TypeBridge.Decimal

theorem cast_tenTo (count : Nat) : (tenTo count : ℚ) = 10 ^ count := Nat.cast_pow 10 count

theorem cast_tenTo_pos (count : Nat) : (0 : ℚ) < tenTo count := Nat.cast_pos.mpr (tenTo_pos count)

theorem cast_tenTo_ne_zero (count : Nat) : (tenTo count : ℚ) ≠ 0 := (cast_tenTo_pos count).ne'

def toRat (value : Decimal) : ℚ := value.signedCoefficient / tenTo value.scale

theorem abs_toRat (value : Decimal) :
    |value.toRat| = (value.coefficient : ℚ) / tenTo value.scale := by
  have sign : |(value.signedCoefficient : ℚ)| = value.coefficient := by
    unfold signedCoefficient
    split
    · rw [Int.cast_neg, abs_neg, Int.cast_natCast, Nat.abs_cast]
    · rw [Int.cast_natCast, Nat.abs_cast]
  rw [toRat, abs_div, sign, Nat.abs_cast]

theorem abs_toRat_lt {value : Decimal} {bound : Nat} :
    |value.toRat| < bound ↔ value.coefficient < bound * tenTo value.scale := by
  rw [abs_toRat, div_lt_iff₀ (cast_tenTo_pos _), ← Nat.cast_mul, Nat.cast_lt]

variable {precision scale : Nat} {fitted : Decimal}

/-- The decimals that a column of the type takes: what a number is fitted to, what is read from the column
and what is bound for it. -/
inductive Passes (precision scale : Nat) : Decimal → Prop where
  | fitted {value fitted : Decimal} {mode : Option RoundingMode}
      (fits : value.fit precision scale mode = .ok fitted) : Passes precision scale fitted
  | read {value : BackendValue} {rounding : Option RoundingMode} {read : Decimal}
      (decoding : (ReadStrategy.decimal precision scale rounding).decode value = .ok (.decimal read)) :
      Passes precision scale read
  | bound {value : LogicalValue} {bound : Decimal}
      (encoding : (WriteStrategy.decimal precision scale).encode value = .ok (.decimal bound)) :
      Passes precision scale bound

/-- Reading and writing let through what was fitted, and nothing else. -/
theorem fit_of_passes (passes : Passes precision scale fitted) :
    ∃ (value : Decimal) (mode : Option RoundingMode), value.fit precision scale mode = .ok fitted := by
  cases passes with
  | fitted fits => exact ⟨_, _, fits⟩
  | @read value _ _ decoding =>
    have present : value.isNull = false := by
      cases value with
      | null => cases decoding
      | _ => rfl
    cases (ReadStrategy.decode_eq_ok present).mp decoding with
    | decimal _ fits => exact ⟨_, _, fitDecimal_eq_ok.mp fits⟩
  | @bound value _ encoding =>
    have present : value.isNull = false := by
      cases value with
      | null => cases encoding
      | _ => rfl
    cases (WriteStrategy.encode_eq_ok present).mp encoding with
    | decimal fits => exact ⟨_, _, fitDecimal_eq_ok.mp fits⟩

theorem coefficient_lt_of_fit {value : Decimal} {mode : Option RoundingMode}
    (h : value.fit precision scale mode = .ok fitted) (other : ¬(precision = 28 ∧ scale = 0)) :
    fitted.coefficient < tenTo (precision - scale) * tenTo fitted.scale := by
  rw [fit_eq] at h
  obtain ⟨_, _, checked⟩ := bind_eq_ok.mp h
  obtain ⟨rfl, exact, narrow⟩ := checkFit_eq_ok.mp checked
  by_cases counted : precision - scale < 28
  · have below := Nat.lt_of_not_le fun wide => narrow ⟨counted, wide⟩
    exact (Nat.div_lt_iff_lt_mul (tenTo_pos _)).mp below
  · have digits : 29 ≤ precision - scale + scale := by omega
    calc
      _ < twoTo 96 := Decimal.coefficient_lt _
      _ < tenTo 29 := by decide
      _ ≤ tenTo (precision - scale + scale) := tenTo_le digits
      _ = _ := by rw [tenTo_add, exact]

def wide : Decimal := ⟨false, tenTo 28, 0, by decide, fun _ => rfl⟩

theorem fit_wide : wide.fit 28 0 none = .ok wide := by
  rw [fit_eq]
  exact bind_eq_ok.mpr ⟨wide, rfl, checkFit_eq_ok.mpr ⟨rfl, rfl, by decide⟩⟩

theorem wide_not_within : ¬|wide.toRat| < tenTo (28 - 0) := by
  rw [abs_toRat_lt]
  decide

/-- Each type but one takes only decimals with no more digits before the point than it leaves room for. -/
theorem passes_within_iff (precision scale : Nat) :
    (∀ fitted, Passes precision scale fitted → |fitted.toRat| < tenTo (precision - scale)) ↔
      ¬(precision = 28 ∧ scale = 0) := by
  constructor
  · rintro within ⟨rfl, rfl⟩
    exact wide_not_within (within wide (.fitted fit_wide))
  · intro other fitted passes
    obtain ⟨value, mode, fits⟩ := fit_of_passes passes
    exact abs_toRat_lt.mpr (coefficient_lt_of_fit fits other)

/-- A number with 29 digits is read from a column of 28. -/
theorem wide_passes :
    (ReadStrategy.decimal 28 0 none).decode (.decimal wide) = .ok (.decimal wide) ∧
      ¬|wide.toRat| < tenTo (28 - 0) :=
  ⟨map_eq_ok.mpr ⟨wide, fitDecimal_eq_ok.mpr fit_wide, rfl⟩, wide_not_within⟩

end TypeBridge.Decimal
