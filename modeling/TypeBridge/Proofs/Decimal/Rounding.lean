import Mathlib.Tactic.Linarith
import TypeBridge.Proofs.Decimal.Precision

/-!
Rounding in exact arithmetic. What a number is fitted to is the number itself, rounded to the digits that
the type has after the point in the way that the mode names. The modes are stated for numbers as they are
and not for the digits that are stored; each of them leaves one whole number to round to. A number that
needs no rounding is changed by no mode.
-/
namespace TypeBridge

namespace RoundingMode

/-- Whether a mode rounds `number` to the whole number `rounded`: to the next one on the side that the
mode names, or to the nearest one, where the mode says which of two that are equally near. Where rounding
is not allowed, only a whole number is rounded, to itself. -/
def Rounds (mode : RoundingMode) (number : ℚ) (rounded : ℤ) : Prop :=
  match mode with
  | up => |number - rounded| < 1 ∧ |number| ≤ |(rounded : ℚ)|
  | down => |number - rounded| < 1 ∧ |(rounded : ℚ)| ≤ |number|
  | ceiling => |number - rounded| < 1 ∧ number ≤ rounded
  | floor => |number - rounded| < 1 ∧ rounded ≤ number
  | halfUp => |number - rounded| ≤ 1 / 2 ∧ (|number - rounded| = 1 / 2 → |number| ≤ |(rounded : ℚ)|)
  | halfDown => |number - rounded| ≤ 1 / 2 ∧ (|number - rounded| = 1 / 2 → |(rounded : ℚ)| ≤ |number|)
  | halfEven => |number - rounded| ≤ 1 / 2 ∧ (|number - rounded| = 1 / 2 → Even rounded)
  | unnecessary => number = rounded

variable {mode : RoundingMode} {number : ℚ}

theorem rounds_intCast (mode : RoundingMode) (whole : ℤ) : mode.Rounds whole whole := by
  cases mode <;> simp [Rounds]

theorem abs_between {lower : ℤ} (above : (lower : ℚ) < number) (below : number < lower + 1) :
    |(lower : ℚ)| < |number| ∧ |number| < |((lower + 1 : ℤ) : ℚ)| ∨
      |((lower + 1 : ℤ) : ℚ)| < |number| ∧ |number| < |(lower : ℚ)| := by
  push_cast
  by_cases positive : 0 ≤ lower
  · have zero : (0 : ℚ) ≤ lower := by exact_mod_cast positive
    left
    rw [abs_of_nonneg zero, abs_of_pos (by linarith), abs_of_pos (by linarith)]
    exact ⟨above, below⟩
  · have one : (lower : ℚ) + 1 ≤ 0 := by exact_mod_cast Int.not_le.mp positive
    right
    rw [abs_of_nonpos one, abs_of_neg (by linarith), abs_of_neg (by linarith)]
    exact ⟨by linarith, by linarith⟩

theorem neighbours {lower upper : ℤ} (order : lower < upper) (first : |number - lower| < 1)
    (second : |number - upper| < 1) :
    upper = lower + 1 ∧ (lower : ℚ) < number ∧ number < lower + 1 := by
  rw [abs_lt] at first second
  have close : upper < lower + 2 := by
    have real : (upper : ℚ) < lower + 2 := by linarith
    exact_mod_cast real
  obtain rfl : upper = lower + 1 := by omega
  push_cast at second
  exact ⟨rfl, by linarith, by linarith⟩

theorem halfway {lower upper : ℤ} (order : lower < upper) (first : |number - lower| ≤ 1 / 2)
    (second : |number - upper| ≤ 1 / 2) :
    |number - lower| = 1 / 2 ∧ |number - upper| = 1 / 2 := by
  have apart : (lower : ℚ) + 1 ≤ upper := by exact_mod_cast order
  obtain ⟨_, highest⟩ := abs_le.mp first
  obtain ⟨lowest, _⟩ := abs_le.mp second
  have fromLower : number - lower = 1 / 2 := by linarith
  have fromUpper : number - upper = -(1 / 2) := by linarith
  rw [fromLower, fromUpper, abs_neg]
  exact ⟨abs_of_pos (by norm_num), abs_of_pos (by norm_num)⟩

/-- A number that lies between two whole numbers is not rounded to both of them: one is further from zero
and the other nearer, and of two neighbours only one is even. -/
theorem not_lt_of_rounds {lower upper : ℤ} (first : mode.Rounds number lower)
    (second : mode.Rounds number upper) : ¬lower < upper := by
  intro order
  cases mode with
  | up | down =>
    obtain ⟨rfl, above, below⟩ := neighbours order first.1 second.1
    have one := first.2
    have other := second.2
    rcases abs_between above below with ⟨nearer, further⟩ | ⟨nearer, further⟩ <;> linarith
  | ceiling =>
    obtain ⟨rfl, above, -⟩ := neighbours order first.1 second.1
    exact absurd first.2 (not_le.mpr above)
  | floor =>
    obtain ⟨rfl, -, below⟩ := neighbours order first.1 second.1
    have least := second.2
    push_cast at least
    exact absurd least (not_le.mpr below)
  | halfUp | halfDown =>
    obtain ⟨tie, otherTie⟩ := halfway order first.1 second.1
    obtain ⟨rfl, above, below⟩ := neighbours order (by linarith) (by linarith)
    have one := first.2 tie
    have other := second.2 otherTie
    rcases abs_between above below with ⟨nearer, further⟩ | ⟨nearer, further⟩ <;> linarith
  | halfEven =>
    obtain ⟨tie, otherTie⟩ := halfway order first.1 second.1
    obtain ⟨rfl, -⟩ := neighbours order (by linarith) (by linarith)
    -- Both are even, and the upper one is next to the lower.
    exact Int.even_add_one.mp (second.2 otherTie) (first.2 tie)
  | unnecessary =>
    have same : (lower : ℚ) = upper := first.symm.trans second
    exact absurd (Int.cast_injective same) order.ne

theorem rounds_unique {first second : ℤ} (one : mode.Rounds number first)
    (other : mode.Rounds number second) : first = second :=
  le_antisymm (not_lt.mp (not_lt_of_rounds other one)) (not_lt.mp (not_lt_of_rounds one other))

/-- The mode that does on one side of zero what the mode does on the other. -/
def mirrored : RoundingMode → RoundingMode
  | ceiling => floor
  | floor => ceiling
  | mode => mode

theorem rounds_neg {rounded : ℤ} (h : mode.mirrored.Rounds number rounded) :
    mode.Rounds (-number) (-rounded) := by
  have away : |-number - ((-rounded : ℤ) : ℚ)| = |number - rounded| := by
    rw [Int.cast_neg, neg_sub_neg, abs_sub_comm]
  cases mode <;> simp_all [mirrored, Rounds]

theorem carries?_mirrored (mode : RoundingMode) (quotient remainder divisor : Nat) :
    mode.carries? true quotient remainder divisor =
      mode.mirrored.carries? false quotient remainder divisor := by
  cases mode <;> rfl

/-- Whether a mode goes up to the next whole number from a number that is `fraction` above `quotient`. -/
def Carries (mode : RoundingMode) (quotient : Nat) (fraction : ℚ) : Prop :=
  match mode with
  | up | ceiling => fraction ≠ 0
  | halfUp => 1 / 2 ≤ fraction
  | halfDown => 1 / 2 < fraction
  | halfEven => 1 / 2 < fraction ∨ fraction = 1 / 2 ∧ Odd quotient
  | down | floor | unnecessary => False

theorem carries_iff {quotient remainder divisor : Nat} {carries : Bool} (positive : 0 < divisor)
    (h : mode.carries? false quotient remainder divisor = some carries) :
    mode.Carries quotient (remainder / divisor) ↔ carries = true := by
  have weight : (0 : ℚ) < divisor := by exact_mod_cast positive
  have none : (remainder / divisor : ℚ) = 0 ↔ remainder = 0 := by
    rw [div_eq_zero_iff, or_iff_left weight.ne', Nat.cast_eq_zero]
  have atLeast : (1 / 2 : ℚ) ≤ remainder / divisor ↔ divisor ≤ 2 * remainder := by
    rw [div_le_div_iff₀ two_pos weight, one_mul, mul_comm]
    exact_mod_cast Iff.rfl
  have past : (1 / 2 : ℚ) < remainder / divisor ↔ divisor < 2 * remainder := by
    rw [div_lt_div_iff₀ two_pos weight, one_mul, mul_comm]
    exact_mod_cast Iff.rfl
  have half : (remainder / divisor : ℚ) = 1 / 2 ↔ divisor = 2 * remainder := by
    rw [div_eq_div_iff weight.ne' two_ne_zero, one_mul, mul_comm, eq_comm]
    exact_mod_cast Iff.rfl
  cases mode <;> cases h <;> simp only [Carries, ne_eq, none, atLeast, past, half] <;>
    simp [Nat.odd_iff]

variable {quotient : Nat} {fraction : ℚ}

theorem rounds_carried (small : fraction < 1) (nonneg : 0 ≤ fraction)
    (carries : mode.Carries quotient fraction) :
    mode.Rounds (quotient + fraction) (quotient + 1) := by
  have least : (0 : ℚ) ≤ quotient := Nat.cast_nonneg quotient
  have away : |quotient + fraction - (quotient + 1)| = 1 - fraction := by
    rw [add_sub_add_left_eq_sub, abs_sub_comm, abs_of_nonneg (by linarith)]
  have size : |quotient + fraction| = quotient + fraction := abs_of_nonneg (by linarith)
  have next : |(quotient : ℚ) + 1| = quotient + 1 := abs_of_nonneg (by linarith)
  cases mode with
  | down | floor | unnecessary => exact carries.elim
  | up | ceiling =>
    have positive : 0 < fraction := lt_of_le_of_ne nonneg (Ne.symm carries)
    simp only [Rounds, Int.cast_add, Int.cast_natCast, Int.cast_one, away, size, next]
    exact ⟨by linarith, by linarith⟩
  | halfUp =>
    have half : 1 / 2 ≤ fraction := carries
    simp only [Rounds, Int.cast_add, Int.cast_natCast, Int.cast_one, away, size, next]
    exact ⟨by linarith, fun _ => by linarith⟩
  | halfDown =>
    have past : 1 / 2 < fraction := carries
    simp only [Rounds, Int.cast_add, Int.cast_natCast, Int.cast_one, away]
    exact ⟨by linarith, fun tie => absurd tie (by linarith)⟩
  | halfEven =>
    simp only [Rounds, Int.cast_add, Int.cast_natCast, Int.cast_one, away]
    rcases carries with past | ⟨half, odd⟩
    · exact ⟨by linarith, fun tie => absurd tie (by linarith)⟩
    · exact ⟨by linarith, fun _ => by exact_mod_cast odd.add_one⟩

theorem rounds_kept (allowed : mode ≠ unnecessary) (small : fraction < 1) (nonneg : 0 ≤ fraction)
    (keeps : ¬mode.Carries quotient fraction) : mode.Rounds (quotient + fraction) quotient := by
  have least : (0 : ℚ) ≤ quotient := Nat.cast_nonneg quotient
  have away : |quotient + fraction - quotient| = fraction := by
    rw [add_sub_cancel_left, abs_of_nonneg nonneg]
  have size : |quotient + fraction| = quotient + fraction := abs_of_nonneg (by linarith)
  have same : |(quotient : ℚ)| = quotient := abs_of_nonneg least
  cases mode with
  | unnecessary => exact absurd rfl allowed
  | up | ceiling =>
    have whole : fraction = 0 := not_not.mp keeps
    simp only [Rounds, Int.cast_natCast, away, size, same]
    exact ⟨small, by linarith⟩
  | down | floor =>
    simp only [Rounds, Int.cast_natCast, away, size, same]
    exact ⟨small, by linarith⟩
  | halfUp =>
    have under : fraction < 1 / 2 := not_le.mp keeps
    simp only [Rounds, Int.cast_natCast, away]
    exact ⟨under.le, fun tie => absurd tie under.ne⟩
  | halfDown =>
    have under : fraction ≤ 1 / 2 := not_lt.mp keeps
    simp only [Rounds, Int.cast_natCast, away, size, same]
    exact ⟨under, fun _ => by linarith⟩
  | halfEven =>
    obtain ⟨under, even⟩ := not_or.mp keeps
    simp only [Rounds, Int.cast_natCast, away]
    exact ⟨not_lt.mp under, fun tie => by simpa using fun odd => even ⟨tie, odd⟩⟩

/-- The quotient, with the carry that the mode asks for, is what the mode rounds the fraction to. -/
theorem rounds_of_carries {coefficient divisor : Nat} {carries : Bool} (positive : 0 < divisor)
    (h : mode.carries? false (coefficient / divisor) (coefficient % divisor) divisor = some carries) :
    mode.Rounds (coefficient / divisor)
      (if carries then coefficient / divisor + 1 else coefficient / divisor : Nat) := by
  have weight : (0 : ℚ) < divisor := by exact_mod_cast positive
  have allowed : mode ≠ unnecessary := by
    rintro rfl
    cases h
  have small : ((coefficient % divisor : Nat) : ℚ) / divisor < 1 := by
    rw [div_lt_one weight]
    exact_mod_cast Nat.mod_lt _ positive
  have nonneg : (0 : ℚ) ≤ (coefficient % divisor : Nat) / divisor := by positivity
  have number : (coefficient : ℚ) / divisor =
      (coefficient / divisor : Nat) + (coefficient % divisor : Nat) / divisor := by
    rw [div_eq_iff weight.ne', add_mul, div_mul_cancel₀ _ weight.ne', mul_comm]
    exact_mod_cast (Nat.div_add_mod coefficient divisor).symm
  have carrying := carries_iff positive h
  rw [number]
  cases carries with
  | true => exact rounds_carried small nonneg (carrying.mpr rfl)
  | false => exact rounds_kept allowed small nonneg fun carry => nomatch carrying.mp carry

end RoundingMode

namespace Decimal

open RoundingMode (rounds_intCast rounds_neg rounds_of_carries rounds_unique)

variable {precision scale : Nat} {mode : RoundingMode} {rounding : Option RoundingMode}
  {value fitted : Decimal}

theorem signedCoefficient_of_make? {negative : Bool} {coefficient : Nat}
    (h : make? negative coefficient scale = some value) :
    value.signedCoefficient = if negative then -(coefficient : ℤ) else coefficient := by
  obtain ⟨digits, -, sign⟩ := make?_eq_some h
  rw [signedCoefficient, sign, digits]
  by_cases zero : coefficient = 0
  · simp [zero]
  · simp [zero]

theorem toRat_mul_tenTo (fewer : scale ≤ value.scale) :
    value.toRat * tenTo scale = value.signedCoefficient / tenTo (value.scale - scale) := by
  have split : tenTo value.scale = tenTo (value.scale - scale) * tenTo scale := by
    rw [← tenTo_add, Nat.sub_add_cancel fewer]
  rw [toRat, split, Nat.cast_mul, div_mul_eq_mul_div, mul_div_mul_right _ _ (cast_tenTo_ne_zero _)]

theorem rounds_of_shorten (fewer : scale ≤ value.scale)
    (h : value.shorten? scale mode = some fitted) :
    mode.Rounds (value.toRat * tenTo scale) fitted.signedCoefficient := by
  unfold shorten? at h
  dsimp only at h
  split at h
  next carries found =>
    have positive := tenTo_pos (value.scale - scale)
    rw [toRat_mul_tenTo fewer, signedCoefficient_of_make? h, signedCoefficient]
    generalize tenTo (value.scale - scale) = divisor at found positive
    cases sign : value.negative with
    | false =>
      rw [sign] at found
      simpa using rounds_of_carries positive found
    | true =>
      rw [sign, RoundingMode.carries?_mirrored] at found
      simpa [neg_div] using rounds_neg (rounds_of_carries positive found)
  next => cases h

theorem PadsTo.toRat_eq (pads : value.PadsTo scale fitted) : fitted.toRat = value.toRat := by
  have signed : fitted.signedCoefficient = value.signedCoefficient * tenTo (scale - value.scale) := by
    rw [signedCoefficient, signedCoefficient, pads.sign, pads.digits]
    cases value.negative <;> simp
  have split : tenTo scale = tenTo value.scale * tenTo (scale - value.scale) := by
    rw [← tenTo_add, Nat.add_sub_cancel' pads.scale_le]
  rw [toRat, toRat, pads.scale_eq, signed, split, Int.cast_mul, Int.cast_natCast, Nat.cast_mul,
    mul_div_mul_right _ _ (cast_tenTo_ne_zero _)]

theorem toRat_mul_scale (exact : fitted.scale = scale) :
    fitted.toRat * tenTo scale = fitted.signedCoefficient := by
  rw [toRat, exact, div_mul_cancel₀ _ (cast_tenTo_ne_zero _)]

/-- Fitting rounds as the mode says, whether digits have to go or zeros are added. Without a mode nothing
is rounded. -/
theorem rounds_of_fit (fits : value.fit precision scale rounding = .ok fitted) :
    fitted.scale = scale ∧
      (rounding.getD .unnecessary).Rounds (value.toRat * tenTo scale) fitted.signedCoefficient := by
  rw [fit_eq] at fits
  obtain ⟨result, brought, checked⟩ := bind_eq_ok.mp fits
  obtain ⟨rfl, exact, -⟩ := checkFit_eq_ok.mp checked
  refine ⟨exact, ?_⟩
  unfold rescale at brought
  split at brought
  next fewer =>
    split at brought
    next shortened found =>
      cases brought
      obtain ⟨mode, rfl, shorter⟩ := Option.bind_eq_some_iff.mp found
      exact rounds_of_shorten fewer.le shorter
    next => cases brought
  next order =>
    cases brought
    have whole : value.scale + (scale - value.scale) = scale := by omega
    have padded := padsTo_extend (exact.trans whole.symm)
    rw [← padded.toRat_eq, toRat_mul_scale exact]
    exact rounds_intCast _ _

/-- What is known of a number that was fitted into a type with the digits `precision` and `scale`. -/
structure IsRounded (mode : RoundingMode) (precision scale : Nat) (value fitted : Decimal) : Prop where
  scale_eq : fitted.scale = scale
  rounds : ∀ whole : ℤ,
    mode.Rounds (value.toRat * tenTo scale) whole ↔ fitted.toRat * tenTo scale = whole
  exact : (∃ whole : ℤ, value.toRat * tenTo scale = whole) → fitted.toRat = value.toRat
  strict : mode = .unnecessary → fitted.toRat = value.toRat
  again : ∀ other, fitDecimal fitted precision scale other = .ok fitted

theorem isRounded_of_fit (fits : value.fit precision scale rounding = .ok fitted) :
    IsRounded (rounding.getD .unnecessary) precision scale value fitted := by
  obtain ⟨exact, rounds⟩ := rounds_of_fit fits
  have digits := toRat_mul_scale exact
  have same {whole : ℤ} (number : value.toRat * tenTo scale = whole)
      (rounded : fitted.signedCoefficient = whole) : fitted.toRat = value.toRat := by
    apply mul_right_cancel₀ (cast_tenTo_ne_zero scale)
    rw [digits, number, rounded]
  refine ⟨exact, fun whole => ⟨fun other => ?_, fun other => ?_⟩, ?_, fun strict => ?_, fun other => ?_⟩
  · rw [digits, rounds_unique rounds other]
  · rw [digits] at other
    rwa [← Int.cast_injective other]
  · rintro ⟨whole, number⟩
    rw [number] at rounds
    exact same number (rounds_unique rounds (rounds_intCast _ whole))
  · rw [strict] at rounds
    exact same rounds rfl
  · exact fitDecimal_eq_ok.mpr (fit_fit fits other)

/-- Where no rounding is allowed, the number that is fitted stays the same. -/
theorem toRat_of_fit_strict (strict : rounding = none ∨ rounding = some .unnecessary)
    (fits : value.fit precision scale rounding = .ok fitted) : fitted.toRat = value.toRat := by
  apply (isRounded_of_fit fits).strict
  rcases strict with rfl | rfl <;> rfl

/-- A number that is fitted is rounded to the digits of the type as the mode says. Fitting fails with an
error about the value and with no other. -/
theorem fitDecimal_rounds (value : Decimal) (precision scale : Nat) (rounding : Option RoundingMode) :
    (∀ fitted, fitDecimal value precision scale rounding = .ok fitted →
      IsRounded (rounding.getD .unnecessary) precision scale value fitted) ∧
    ∀ error, fitDecimal value precision scale rounding = .error error →
      ∃ cause, error = .invalidValue cause := by
  refine ⟨fun fitted fits => isRounded_of_fit (fitDecimal_eq_ok.mp fits), fun error fails => ?_⟩
  unfold fitDecimal at fails
  split at fails
  next => cases fails
  next fault _ =>
    cases fails
    exact ⟨.decimalFit value precision scale fault, rfl⟩

/-- Two and a half below zero, which lies between two and three: the even one is taken, and without a
mode there is none. -/
theorem fitDecimal_rounds_tie :
    let value : Decimal := ⟨true, 25, 1, by decide, nofun⟩
    let fitted : Decimal := ⟨true, 2, 0, by decide, nofun⟩
    let error : Error := .invalidValue (.decimalFit value 10 0 .roundingNecessary)
    (fitDecimal value 10 0 (some .halfEven) = .ok fitted ∧ IsRounded .halfEven 10 0 value fitted) ∧
      fitDecimal value 10 0 none = .error error ∧ ∃ cause, error = .invalidValue cause := by
  intro value fitted error
  have fits : fitDecimal value 10 0 (some .halfEven) = .ok fitted := by decide
  have fails : fitDecimal value 10 0 none = .error error := rfl
  exact ⟨⟨fits, (fitDecimal_rounds value 10 0 (some .halfEven)).1 fitted fits⟩, fails,
    (fitDecimal_rounds value 10 0 none).2 error fails⟩

end Decimal

end TypeBridge
