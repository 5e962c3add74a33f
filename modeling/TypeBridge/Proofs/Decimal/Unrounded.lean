import TypeBridge.Proofs.Decimal.Rounding

/-!
Fitting without rounding. A number is taken as it is when it is stored with no more digits after the point
than the type has, and refused when it is stored with more, even if those are zeros.
-/
namespace TypeBridge.Decimal

variable {precision scale : Nat} {rounding : Option RoundingMode} {value fitted : Decimal}

theorem extend_scale {steps : Nat} (room : value.coefficient * tenTo steps < twoTo 96)
    (few : value.scale + steps ≤ maxScale) : (value.extend steps).scale = value.scale + steps := by
  induction steps generalizing value with
  | zero => rfl
  | succ steps ih =>
    have more : value.coefficient * tenTo (steps + 1) = value.coefficient * 10 * tenTo steps := by
      rw [tenTo_succ, Nat.mul_comm (tenTo steps), Nat.mul_assoc]
    have fits : value.coefficient * 10 < twoTo 96 :=
      Nat.lt_of_le_of_lt (Nat.le_mul_of_pos_right _ (tenTo_pos steps)) (more ▸ room)
    have going : ¬(value.isZero && decide (maxScale ≤ value.scale)) = true := by
      simp only [Bool.and_eq_true, decide_eq_true_eq]
      omega
    rw [extend, if_neg going, make?, dif_pos fits]
    dsimp only
    rw [ih (more ▸ room) (by dsimp only; omega)]
    dsimp only
    omega

/-- Without a mode there are no digits to drop: a number is fitted when it is stored with the digits of the
type after the point or with fewer. -/
theorem rescale_strict (strict : rounding = none ∨ rounding = some .unnecessary) :
    value.rescale scale rounding =
      if scale < value.scale then .error .roundingNecessary
      else .ok (value.extend (scale - value.scale)) := by
  have refused : rounding.bind (value.shorten? scale) = none := by
    rcases strict with rfl | rfl <;> rfl
  rw [rescale, refused]

theorem fit_of_within (known : precision ≤ 28) (within : scale ≤ precision) (order : value.scale ≤ scale)
    (room : |value.toRat| < tenTo (precision - scale))
    (strict : rounding = none ∨ rounding = some .unnecessary) :
    value.fit precision scale rounding = .ok (value.extend (scale - value.scale)) := by
  have split : tenTo value.scale * tenTo (scale - value.scale) = tenTo scale := by
    rw [← tenTo_add, Nat.add_sub_cancel' order]
  have digits : value.coefficient * tenTo (scale - value.scale) < twoTo 96 := by
    calc
      _ < tenTo (precision - scale) * tenTo value.scale * tenTo (scale - value.scale) :=
        Nat.mul_lt_mul_of_pos_right (abs_toRat_lt.mp room) (tenTo_pos _)
      _ = tenTo precision := by rw [Nat.mul_assoc, split, ← tenTo_add, Nat.sub_add_cancel within]
      _ ≤ tenTo 28 := tenTo_le known
      _ < twoTo 96 := by decide
  have whole : value.scale + (scale - value.scale) = scale := Nat.add_sub_cancel' order
  have reached : (value.extend (scale - value.scale)).scale = scale := by
    rw [extend_scale digits (whole.trans_le (within.trans known)), whole]
  have padded := padsTo_extend (reached.trans whole.symm)
  rw [← padded.toRat_eq, abs_toRat_lt] at room
  rw [fit_eq, rescale_strict strict, if_neg (Nat.not_lt.mpr order)]
  refine bind_eq_ok.mpr ⟨_, rfl, checkFit_eq_ok.mpr ⟨rfl, reached, fun narrow => ?_⟩⟩
  exact absurd narrow.2 (Nat.not_le.mpr ((Nat.div_lt_iff_lt_mul (tenTo_pos _)).mpr room))

/-- A type with up to 28 digits takes a number as it is exactly when the number is stored with no more
digits after the point than the type has, and the type leaves room for those before it. The room is not
counted where the type has 28 digits and none of them after the point. -/
theorem fitDecimal_strict_iff (value : Decimal) (known : precision ≤ 28) (within : scale ≤ precision)
    (strict : rounding = none ∨ rounding = some .unnecessary) :
    (∃ fitted, fitDecimal value precision scale rounding = .ok fitted) ↔
      value.scale ≤ scale ∧
        (|value.toRat| < tenTo (precision - scale) ∨ precision = 28 ∧ scale = 0) := by
  simp only [fitDecimal_eq_ok]
  constructor
  · rintro ⟨fitted, fits⟩
    refine ⟨?_, ?_⟩
    · rw [fit_eq, rescale_strict strict] at fits
      split at fits
      next => cases fits
      next order => exact Nat.le_of_not_lt order
    · rw [← toRat_of_fit_strict strict fits, abs_toRat_lt]
      by_cases uncounted : precision = 28 ∧ scale = 0
      · exact .inr uncounted
      · exact .inl (coefficient_lt_of_fit fits uncounted)
  · rintro ⟨order, room | ⟨rfl, rfl⟩⟩
    · exact ⟨_, fit_of_within known within order room strict⟩
    · -- No zeros are added, and none of the digits is counted.
      have whole : value.scale = 0 := Nat.le_zero.mp order
      have kept : value.rescale 0 rounding = .ok value := by
        rw [rescale_strict strict, whole]
        rfl
      refine ⟨value, ?_⟩
      rw [fit_eq, kept]
      exact checkFit_eq_ok.mpr ⟨rfl, whole, fun narrow => absurd narrow.1 (by decide)⟩

/-- The greatest number of a type with digits after the point, stored with fewer of them. -/
theorem fitDecimal_strict_widest :
    let value : Decimal := ⟨true, 9999, 0, by decide, nofun⟩
    (5 ≤ 28 ∧ 1 ≤ 5 ∧ ((none : Option RoundingMode) = none ∨ none = some RoundingMode.unnecessary)) ∧
      |value.toRat| < tenTo (5 - 1) ∧ ∃ fitted, fitDecimal value 5 1 none = .ok fitted := by
  intro value
  have room : |value.toRat| < tenTo (5 - 1) := abs_toRat_lt.mpr (by decide)
  exact ⟨by decide, room,
    (fitDecimal_strict_iff value (by decide) (by decide) (.inl rfl)).mpr ⟨by decide, .inl room⟩⟩

def trailingZero : Decimal := ⟨false, 150, 2, by decide, nofun⟩

/-- A number with one digit after the point is not taken by a type with one digit after the point, because
of the zero that is stored after it. -/
theorem trailingZero_refused :
    (∃ whole : ℤ, trailingZero.toRat * tenTo 1 = whole) ∧ |trailingZero.toRat| < tenTo (5 - 1) ∧
      ∀ rounding, rounding = none ∨ rounding = some .unnecessary →
        fitDecimal trailingZero 5 1 rounding =
          .error (.invalidValue (.decimalFit trailingZero 5 1 .roundingNecessary)) := by
  refine ⟨⟨15, ?_⟩, abs_toRat_lt.mpr (by decide), ?_⟩
  · norm_num [toRat, signedCoefficient, trailingZero, tenTo]
  · rintro rounding (rfl | rfl) <;> rfl

end TypeBridge.Decimal
