import Mathlib.Data.Rat.Floor
import TypeBridge.Proofs.Machine.Codec

/-!
Rounding half up. On a decimal grid a number is brought to the nearest multiple of the step, of two to the
later. A quotient is brought to the nearest whole number, of two to the greater, but below zero an odd
divisor takes up what is just less than a half above a whole number as well.
-/
namespace TypeBridge.Temporal

/-- The multiple of a unit that is nearest to a number, and the greater one where two are. -/
structure NearestHalfUp (unit value rounded : Int) : Prop where
  onGrid : unit ∣ rounded
  nearest : ∀ other, unit ∣ other → (value - rounded).natAbs ≤ (value - other).natAbs
  ties : ∀ other, unit ∣ other → (value - other).natAbs = (value - rounded).natAbs → other ≤ rounded

/-- Another multiple is a unit or more away, so that it is no nearer. -/
theorem RoundsHalfUp.nearestHalfUp {unit value rounded : Int} (next : RoundsHalfUp unit value rounded) :
    NearestHalfUp unit value rounded := by
  obtain ⟨onGrid, down, up⟩ := next
  have apart : ∀ other, unit ∣ other →
      other = rounded ∨ other ≤ rounded - unit ∨ rounded + unit ≤ other := by
    intro other onOther
    by_contra between
    have same := eq_of_near onGrid onOther (by omega) (by omega)
    omega
  refine ⟨onGrid, fun other onOther => ?_, fun other onOther same => ?_⟩
  · have place := apart other onOther
    omega
  · have place := apart other onOther
    omega

structure ProjectsHalfUp (unit : Int) (round : Int → Int) : Prop where
  nearest : ∀ value, NearestHalfUp unit value (round value)
  mono : ∀ left right, left ≤ right → round left ≤ round right
  fixed : ∀ value, unit ∣ value → round value = value
  idempotent : ∀ value, round (round value) = round value
  shifts : ∀ value offset, unit ∣ offset → round (value + offset) = round value + offset

theorem projectsHalfUp_roundToPrecision (digits precision : Nat) :
    ProjectsHalfUp (step digits precision) (roundToPrecision · digits precision) where
  nearest value := (roundsHalfUp_roundToPrecision value digits precision).nearestHalfUp
  mono _ _ := roundToPrecision_mono digits precision
  fixed _ := roundToPrecision_of_dvd
  idempotent value := roundToPrecision_of_dvd (step_dvd_roundToPrecision value digits precision)
  shifts value _ := roundToPrecision_add value

/-- Rounding to a precision is the projection onto the grid of its step that takes a half up, on both sides
of zero; where the grid has all digits, every number stays. In units a thousand times finer it is the
same. In words of 128 bits it goes through for up to fifteen digits and numbers of 110 bits, which leaves room
for a thousand times the numbers of a hundred bits and twelve digits. -/
theorem roundToPrecision_projects (digits precision : Nat) :
    ProjectsHalfUp (step digits precision) (roundToPrecision · digits precision) ∧
    (digits ≤ precision → ∀ value, roundToPrecision value digits precision = value) ∧
    (precision ≤ digits → ∀ value, roundToPrecision (value * 1000) (digits + 3) precision =
      roundToPrecision value digits precision * 1000) ∧
    (digits ≤ 15 → ∀ value : Int, value.natAbs < twoTo 110 →
      Machine.roundToPrecision value digits precision = .ok (roundToPrecision value digits precision)) := by
  refine ⟨projectsHalfUp_roundToPrecision digits precision, roundToPrecision_fine,
    roundToPrecision_thousand, fun few value small => ?_⟩
  have bound : twoTo 110 = 1298074214633706907132624082305024 := rfl
  exact Machine.roundToPrecision_eq_ok ⟨by omega, by omega⟩ few precision

/-- A half above a step is taken up below zero, too: a millisecond and a half before the epoch goes to the
millisecond before it, in nanoseconds and in picoseconds. -/
theorem roundToPrecision_projects_beforeEpoch :
    roundToPrecision (-1500000) 9 3 = -1000000 ∧
      roundToPrecision (-1500001) 9 3 ≤ roundToPrecision (-1500000) 9 3 ∧
      roundToPrecision (-1000000) 9 3 = -1000000 ∧
      roundToPrecision (-1500000 + 7000000) 9 3 = roundToPrecision (-1500000) 9 3 + 7000000 ∧
      roundToPrecision (-1500000) 9 12 = -1500000 ∧
      roundToPrecision (-1500000 * 1000) 12 3 = roundToPrecision (-1500000) 9 3 * 1000 ∧
      Machine.roundToPrecision (-1500000) 9 3 = .ok (roundToPrecision (-1500000) 9 3) := by
  obtain ⟨projects, -, finer, words⟩ := roundToPrecision_projects 9 3
  obtain ⟨-, whole, -, -⟩ := roundToPrecision_projects 9 12
  exact ⟨by decide, projects.mono _ _ (by decide), projects.fixed _ (by decide),
    projects.shifts _ _ (by decide), whole (by decide) _, finer (by decide) _,
    words (by decide) _ (by decide)⟩

variable {value factor : Int}

/-- A number below zero of which an odd divisor leaves its lesser half, so that the quotient is just less
than a half above a whole number. -/
def JustBelowHalf (value factor : Int) : Prop :=
  value < 0 ∧ 1 < factor ∧ 2 * (value % factor) + 1 = factor

instance (value factor : Int) : Decidable (JustBelowHalf value factor) :=
  inferInstanceAs (Decidable (_ ∧ _ ∧ _))

theorem add_ediv_of_le {part : Int} (positive : 0 < factor) (natural : 0 ≤ part) (most : part ≤ factor) :
    (value + part) / factor = value / factor + if factor ≤ value % factor + part then 1 else 0 := by
  have whole := Int.mul_ediv_add_emod value factor
  have rest := Int.emod_nonneg value (Int.ne_of_gt positive)
  have small := Int.emod_lt_of_pos value positive
  rw [Int.ediv_eq_iff_of_pos positive, Int.add_mul, Int.mul_comm _ factor]
  split <;> omega

theorem floor_add_half (value : Int) (positive : 0 < factor) :
    ⌊(value : ℚ) / factor + 1 / 2⌋ = (value + factor / 2) / factor := by
  have nonzero : (factor : ℚ) ≠ 0 := Int.cast_ne_zero.mpr positive.ne'
  have doubled : (value : ℚ) / factor + 1 / 2 = ((2 * value + factor : ℤ) : ℚ) / (2 : ℤ) / factor := by
    push_cast
    field_simp
  rw [doubled, Int.floor_div_cast_of_nonneg positive.le, Int.floor_div_cast_of_nonneg (by decide),
    Int.floor_intCast]
  congr 1
  omega

/-- The rounded quotient is the nearest whole number, or one more just below a half. -/
theorem roundDiv_eq (value : Int) (positive : 0 < factor) :
    roundDiv value factor =
      ⌊(value : ℚ) / factor + 1 / 2⌋ + if JustBelowHalf value factor then 1 else 0 := by
  rw [floor_add_half value positive]
  by_cases natural : 0 ≤ value
  · rw [roundDiv_of_nonneg positive natural, if_neg fun below => absurd below.1 (by omega), Int.add_zero]
  · by_cases unit : factor = 1
    · have same : (1 : Int) / 2 = 0 := rfl
      rw [if_neg fun below => absurd below.2.1 (by omega), roundDiv, if_pos unit, unit, same]
      omega
    · rw [roundDiv_of_neg (by omega) (Int.not_le.mp natural), add_ediv_of_le positive (by omega) (by omega),
        add_ediv_of_le positive (by omega) (by omega)]
      unfold JustBelowHalf
      split_ifs <;> omega

/-- By a positive divisor a quotient is rounded to the nearest whole number, of two to the greater, just when
the number is not just below a half; such a number goes up by one more. In words of 64 bits nothing is lost. -/
theorem roundDiv_nearest_iff (value factor : Int64) (positive : 1 ≤ factor.toInt) :
    (roundDiv value.toInt factor.toInt = ⌊(value.toInt : ℚ) / factor.toInt + 1 / 2⌋ ↔
      ¬JustBelowHalf value.toInt factor.toInt) ∧
    (JustBelowHalf value.toInt factor.toInt →
      roundDiv value.toInt factor.toInt = ⌊(value.toInt : ℚ) / factor.toInt + 1 / 2⌋ + 1) ∧
    Machine.roundDiv value.toInt factor.toInt = .ok (roundDiv value.toInt factor.toInt) := by
  have least := value.le_toInt
  have greatest := value.toInt_lt
  have most := factor.toInt_lt
  have rounded := roundDiv_eq value.toInt positive
  refine ⟨?_, fun below => ?_, Machine.roundDiv_eq_ok (Machine.holds_signed64.mpr (by omega)) positive
    (Machine.holds_signed64.mpr (by omega))⟩
  · rw [rounded]
    split_ifs with below <;> simp [below]
  · rw [rounded, if_pos below]

/-- By three, minus four goes to minus one and minus two to zero. -/
theorem roundDiv_nearest_iff_thirds :
    1 ≤ (3 : Int64).toInt ∧ ¬JustBelowHalf (-4) 3 ∧
      roundDiv (-4) 3 = ⌊((-4 : ℤ) : ℚ) / (3 : ℤ) + 1 / 2⌋ ∧
      JustBelowHalf (-2) 3 ∧ roundDiv (-2) 3 = ⌊((-2 : ℤ) : ℚ) / (3 : ℤ) + 1 / 2⌋ + 1 ∧
      Machine.roundDiv (-4) 3 = .ok (roundDiv (-4) 3) := by
  have positive : 1 ≤ (3 : Int64).toInt := by decide
  obtain ⟨nearest, -, words⟩ := roundDiv_nearest_iff (-4) 3 positive
  obtain ⟨-, more, -⟩ := roundDiv_nearest_iff (-2) 3 positive
  exact ⟨positive, by decide, nearest.mpr (by decide), by decide, more (by decide), words⟩

/-- Minus two thirds are nearer to minus one than to zero, where they are put. -/
theorem minusTwoThirds_to_zero :
    Machine.roundDiv (-2) 3 = .ok 0 ∧ roundDiv (-2) 3 = 0 ∧ ⌊((-2 : ℤ) : ℚ) / (3 : ℤ) + 1 / 2⌋ = -1 := by
  refine ⟨rfl, rfl, ?_⟩
  norm_num [Int.floor_eq_iff]

end TypeBridge.Temporal
