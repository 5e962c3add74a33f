import TypeBridge.Decimal.Fit
import TypeBridge.Proofs.Outcome

/-!
Decimals that were fitted into a type. They have the scale of the type and fit it again as they are,
whatever the rounding; without rounding they are the number that was fitted, with zeros in the end.
-/
namespace TypeBridge.Decimal

def rescale (value : Decimal) (scale : Nat) (mode : Option RoundingMode) : Except FitFault Decimal :=
  if scale < value.scale then
    match mode.bind (value.shorten? scale) with
    | some shortened => .ok shortened
    | none => .error .roundingNecessary
  else .ok (value.extend (scale - value.scale))

def checkFit (precision scale : Nat) (result : Decimal) : Except FitFault Decimal :=
  if result.scale ≠ scale then .error .scaleOutOfReach
  else if precision - scale < 28 ∧ tenTo (precision - scale) ≤ result.integerPart then .error .tooWide
  else .ok result

theorem fit_eq (value : Decimal) (precision scale : Nat) (mode : Option RoundingMode) :
    value.fit precision scale mode = value.rescale scale mode >>= checkFit precision scale := by
  have checks : ∀ result : Decimal, (do
      if result.scale ≠ scale then throw .scaleOutOfReach
      if precision - scale < 28 ∧ tenTo (precision - scale) ≤ result.integerPart then throw .tooWide
      return result) = checkFit precision scale result := by
    intro result
    unfold checkFit
    dsimp only
    split
    · rfl
    · split <;> rfl
  unfold fit rescale
  dsimp only at checks ⊢
  simp only [checks]
  split
  · cases mode.bind (value.shorten? scale) <;> rfl
  · rfl

theorem checkFit_eq_ok {precision scale : Nat} {result fitted : Decimal} :
    checkFit precision scale result = .ok fitted ↔ result = fitted ∧ fitted.scale = scale ∧
      ¬(precision - scale < 28 ∧ tenTo (precision - scale) ≤ fitted.integerPart) := by
  unfold checkFit
  constructor
  · intro h
    split at h
    next => cases h
    next exact =>
      split at h
      next => cases h
      next narrow =>
        cases h
        exact ⟨rfl, Decidable.not_not.mp exact, narrow⟩
  · rintro ⟨rfl, exact, narrow⟩
    rw [if_neg (fun differs => differs exact), if_neg narrow]

theorem fit_fit {value fitted : Decimal} {precision scale : Nat} {mode : Option RoundingMode}
    (h : value.fit precision scale mode = .ok fitted) (other : Option RoundingMode) :
    fitted.fit precision scale other = .ok fitted := by
  rw [fit_eq] at h
  obtain ⟨result, _, checked⟩ := bind_eq_ok.mp h
  obtain ⟨rfl, exact, narrow⟩ := checkFit_eq_ok.mp checked
  have kept : result.rescale scale other = .ok result := by
    rw [rescale, if_neg (by omega), exact, Nat.sub_self]
    rfl
  rw [fit_eq, kept]
  exact checkFit_eq_ok.mpr ⟨rfl, exact, narrow⟩

/-- The same number with zeros after its digits, so that `scale` of them stand after the point. -/
structure PadsTo (value : Decimal) (scale : Nat) (padded : Decimal) : Prop where
  sign : padded.negative = value.negative
  scale_eq : padded.scale = scale
  scale_le : value.scale ≤ scale
  digits : padded.coefficient = value.coefficient * tenTo (scale - value.scale)

theorem padsTo_extend {value : Decimal} {steps : Nat}
    (reached : (value.extend steps).scale = value.scale + steps) :
    value.PadsTo (value.scale + steps) (value.extend steps) := by
  induction steps generalizing value with
  | zero => exact ⟨rfl, rfl, Nat.le_refl _, by simp [extend, tenTo_zero]⟩
  | succ steps ih =>
    rw [extend] at reached ⊢
    split at reached
    next => omega
    next going =>
      rw [if_neg going]
      cases longer : make? value.negative (value.coefficient * 10) (value.scale + 1) with
      | none =>
        simp only [longer] at reached
        omega
      | some next =>
        simp only [longer] at reached ⊢
        obtain ⟨digits, scale, sign⟩ := make?_eq_some longer
        have rest := @ih next (by omega)
        refine ⟨?_, reached, by omega, ?_⟩
        · -- A zero has no sign that could be lost.
          rw [rest.sign, sign]
          by_cases zero : value.coefficient = 0
          · simp [zero, value.zero_unsigned zero]
          · have more : value.coefficient * 10 ≠ 0 := by omega
            simp [more]
        · have one : value.scale + (steps + 1) - value.scale = 1 + steps := by omega
          have left : next.scale + steps - next.scale = steps := by omega
          rw [rest.digits, digits, one, left, tenTo_add, Nat.mul_assoc]
          rfl

theorem padsTo_of_fit {value fitted : Decimal} {precision scale : Nat}
    (h : value.fit precision scale none = .ok fitted) : value.PadsTo scale fitted := by
  rw [fit_eq] at h
  obtain ⟨result, brought, checked⟩ := bind_eq_ok.mp h
  obtain ⟨rfl, exact, -⟩ := checkFit_eq_ok.mp checked
  unfold rescale at brought
  split at brought
  next => cases brought
  next order =>
    cases brought
    have whole : value.scale + (scale - value.scale) = scale := by omega
    have padded := padsTo_extend (exact.trans whole.symm)
    rwa [whole] at padded

theorem fit_ofInt64 {value : Int64} {precision : Nat} (small : value.toInt.natAbs < tenTo precision)
    (mode : Option RoundingMode) : (ofInt64 value).fit precision 0 mode = .ok (ofInt64 value) := by
  have kept : (ofInt64 value).rescale 0 mode = .ok (ofInt64 value) := rfl
  have whole : (ofInt64 value).integerPart = value.toInt.natAbs := Nat.div_one _
  have narrow : ¬(precision - 0 < 28 ∧ tenTo (precision - 0) ≤ (ofInt64 value).integerPart) := by
    rw [whole, Nat.sub_zero]
    omega
  rw [fit_eq]
  exact bind_eq_ok.mpr ⟨_, kept, checkFit_eq_ok.mpr ⟨rfl, rfl, narrow⟩⟩

end TypeBridge.Decimal
