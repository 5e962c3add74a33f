import TypeBridge.Temporal.Grid

/-!
Rounding to a decimal grid. What is rounded is a multiple of the step of the grid, and no more than half
a step away; two multiples of the step that are that near are the same, so everything else about rounding
follows from these facts.
-/
namespace TypeBridge.Temporal

/-- The distance of two neighbours on the grid of `precision` digits, in units of the last of `digits`. -/
def step (digits precision : Nat) : Int := tenTo (digits - precision)

theorem step_pos (digits precision : Nat) : 0 < step digits precision :=
  Int.natCast_pos.mpr (tenTo_pos _)

theorem step_eq_double {digits precision : Nat} (coarse : precision < digits) :
    ∃ half : Int, 0 < half ∧ step digits precision = 2 * half := by
  have digitsLeft : digits - precision = (digits - precision - 1) + 1 := by omega
  refine ⟨5 * tenTo (digits - precision - 1), ?_, ?_⟩
  · have positive := tenTo_pos (digits - precision - 1)
    omega
  · rw [step, digitsLeft, tenTo_succ]
    push_cast
    omega

theorem step_dvd {digits finer coarser : Nat} (order : coarser ≤ finer) :
    step digits finer ∣ step digits coarser := by
  have split : digits - coarser = (digits - coarser - (digits - finer)) + (digits - finer) := by omega
  rw [step, step, split, tenTo_add]
  push_cast
  exact Int.dvd_mul_left ..

theorem step_le (digits precision : Nat) : step digits precision ≤ tenTo digits :=
  Int.le_of_dvd (Int.natCast_pos.mpr (tenTo_pos digits)) (step_dvd (Nat.zero_le precision))

theorem step_thousand {digits precision : Nat} (few : precision ≤ digits) :
    step (digits + 3) precision = step digits precision * 1000 := by
  have more : digits + 3 - precision = (digits - precision) + 3 := by omega
  rw [step, more, tenTo_add, step]
  push_cast
  rfl

theorem step_picos {digits : Nat} (few : digits ≤ 9) : step 12 digits = step 9 digits * 1000 :=
  step_thousand few

theorem step_dvd_picos {digits : Nat} {nanos : Int} (onGrid : step 9 digits ∣ nanos) :
    step 12 digits ∣ nanos * 1000 := by
  by_cases few : digits ≤ 9
  · rw [step_picos few]
    exact Int.mul_dvd_mul onGrid (Int.dvd_refl 1000)
  · have nano : step 12 9 = 1000 := rfl
    have finer : step 12 digits ∣ step 12 9 := step_dvd (by omega)
    rw [nano] at finer
    exact Int.dvd_trans finer (Int.dvd_mul_left ..)

/-- From zero on, half of the divisor is added and the quotient taken downwards. -/
theorem roundDiv_of_nonneg {value factor : Int} (positive : 0 < factor) (natural : 0 ≤ value) :
    roundDiv value factor = (value + factor / 2) / factor := by
  have half : factor.tdiv 2 = factor / 2 := Int.tdiv_eq_ediv_of_nonneg (Int.le_of_lt positive)
  rw [roundDiv, half, if_pos natural]
  split
  next unit =>
    rw [unit, Int.ediv_one]
    exact (Int.add_zero value).symm
  next => exact Int.tdiv_eq_ediv_of_nonneg (by omega)

/-- Below zero it is the greater half that is added, where the divisor is odd. -/
theorem roundDiv_of_neg {value factor : Int} (several : 1 < factor) (negative : value < 0) :
    roundDiv value factor = (value + (factor - factor / 2)) / factor := by
  have positive : 0 < factor := by omega
  have half : factor.tdiv 2 = factor / 2 := Int.tdiv_eq_ediv_of_nonneg (Int.le_of_lt positive)
  rw [roundDiv, half, if_neg (by omega), if_neg (by omega)]
  -- The quotient of a negative number is that of its opposite, and the unit added rounds it up.
  have opposite : (value + 1 - factor / 2).tdiv factor = -((factor / 2 - 1 - value) / factor) := by
    have negated : value + 1 - factor / 2 = -(factor / 2 - 1 - value) := by omega
    rw [negated, Int.neg_tdiv, Int.tdiv_eq_ediv_of_nonneg (by omega)]
  have down := Int.mul_ediv_add_emod (factor / 2 - 1 - value) factor
  have small := Int.emod_lt_of_pos (factor / 2 - 1 - value) positive
  have natural := Int.emod_nonneg (factor / 2 - 1 - value) (Int.ne_of_gt positive)
  rw [opposite]
  symm
  rw [Int.ediv_eq_iff_of_pos positive, Int.neg_mul, Int.mul_comm _ factor]
  omega

/-- For an even divisor, a half is added and the quotient taken downwards, on both sides of zero. -/
theorem roundDiv_even {half : Int} (positive : 0 < half) (value : Int) :
    roundDiv value (2 * half) = (value + half) / (2 * half) := by
  have halved : 2 * half / 2 = half := Int.mul_ediv_cancel_left half (by decide)
  have rest : 2 * half - half = half := by omega
  by_cases natural : 0 ≤ value
  · rw [roundDiv_of_nonneg (by omega) natural, halved]
  · rw [roundDiv_of_neg (by omega) (Int.not_le.mp natural), halved, rest]

theorem roundDiv_between (value : Int) {factor : Int} (positive : 0 < factor) :
    min 0 value ≤ roundDiv value factor ∧ roundDiv value factor ≤ max 0 value := by
  by_cases unit : factor = 1
  · rw [roundDiv, if_pos unit]
    omega
  · have several : 1 < factor := by omega
    by_cases natural : 0 ≤ value
    · have grows := Int.mul_le_mul_of_nonneg_left (Int.le_of_lt several) natural
      have low := Int.ediv_nonneg (show 0 ≤ value + factor / 2 by omega) (Int.le_of_lt positive)
      have high : (value + factor / 2) / factor < value + 1 := by
        apply Int.ediv_lt_of_lt_mul positive
        rw [Int.add_mul, Int.one_mul]
        omega
      rw [roundDiv_of_nonneg positive natural]
      omega
    · have grows := Int.mul_le_mul_of_nonpos_left (show value ≤ 0 by omega) (Int.le_of_lt several)
      have low : value ≤ (value + (factor - factor / 2)) / factor := by
        apply Int.le_ediv_of_mul_le positive
        omega
      have high : (value + (factor - factor / 2)) / factor < 1 := by
        apply Int.ediv_lt_of_lt_mul positive
        omega
      rw [roundDiv_of_neg several (Int.not_le.mp natural)]
      omega

theorem roundDiv_mul {half : Int} (positive : 0 < half) (quotient : Int) :
    roundDiv (quotient * (2 * half)) (2 * half) = quotient := by
  rw [roundDiv_even positive, Int.add_comm, Int.add_mul_ediv_right _ _ (by omega),
    Int.ediv_eq_zero_of_lt (by omega) (by omega), Int.zero_add]

theorem roundToPrecision_fine {digits precision : Nat} (fine : digits ≤ precision) (value : Int) :
    roundToPrecision value digits precision = value := by
  rw [roundToPrecision, if_pos fine]

theorem step_dvd_roundToPrecision (value : Int) (digits precision : Nat) :
    step digits precision ∣ roundToPrecision value digits precision := by
  unfold roundToPrecision
  split
  next fine =>
    have unit : step digits precision = 1 := by rw [step, Nat.sub_eq_zero_of_le fine]; rfl
    rw [unit]
    exact Int.one_dvd _
  next => exact Int.dvd_mul_left ..

theorem roundToPrecision_near (value : Int) (digits precision : Nat) :
    2 * value - step digits precision < 2 * roundToPrecision value digits precision ∧
      2 * roundToPrecision value digits precision ≤ 2 * value + step digits precision := by
  by_cases fine : digits ≤ precision
  · have positive := step_pos digits precision
    rw [roundToPrecision_fine fine]
    omega
  · obtain ⟨half, positive, double⟩ := step_eq_double (Nat.lt_of_not_le fine)
    have rounded : roundToPrecision value digits precision =
        (value + half) / (2 * half) * (2 * half) := by
      rw [roundToPrecision, if_neg fine]
      change roundDiv value (step digits precision) * step digits precision = _
      rw [double, roundDiv_even positive]
    have parts := Int.mul_ediv_add_emod (value + half) (2 * half)
    have small := Int.emod_lt_of_pos (value + half) (show 0 < 2 * half by omega)
    have natural := Int.emod_nonneg (value + half) (show 2 * half ≠ 0 by omega)
    rw [Int.mul_comm] at parts
    rw [rounded, double]
    omega

/-- The multiple of a unit that is next to a number. Of two that are as near it is the greater. -/
structure RoundsHalfUp (unit value rounded : Int) : Prop where
  onGrid : unit ∣ rounded
  down : 2 * value < 2 * rounded + unit
  up : 2 * rounded ≤ 2 * value + unit

theorem roundsHalfUp_roundToPrecision (value : Int) (digits precision : Nat) :
    RoundsHalfUp (step digits precision) value (roundToPrecision value digits precision) := by
  have near := roundToPrecision_near value digits precision
  exact ⟨step_dvd_roundToPrecision .., by omega, by omega⟩

theorem eq_of_near {unit left right : Int} (onLeft : unit ∣ left) (onRight : unit ∣ right)
    (below : left - unit < right) (above : right < left + unit) : right = left := by
  obtain ⟨count, difference⟩ := Int.dvd_sub onRight onLeft
  have positive : 0 < unit := by omega
  have least : -1 < count := by
    apply Int.lt_of_mul_lt_mul_left _ (Int.le_of_lt positive)
    rw [Int.mul_neg, Int.mul_one]
    omega
  have greatest : count < 1 := by
    apply Int.lt_of_mul_lt_mul_left _ (Int.le_of_lt positive)
    rw [Int.mul_one]
    omega
  have same : count = 0 := by omega
  rw [same, Int.mul_zero] at difference
  omega

theorem roundToPrecision_eq_iff {value rounded : Int} {digits precision : Nat} :
    roundToPrecision value digits precision = rounded ↔
      RoundsHalfUp (step digits precision) value rounded := by
  constructor
  · rintro rfl
    exact roundsHalfUp_roundToPrecision value digits precision
  · intro next
    have near := roundToPrecision_near value digits precision
    obtain ⟨onGrid, down, up⟩ := next
    exact eq_of_near onGrid (step_dvd_roundToPrecision ..) (by omega) (by omega)

theorem roundToPrecision_of_dvd {value : Int} {digits precision : Nat}
    (onGrid : step digits precision ∣ value) : roundToPrecision value digits precision = value := by
  have positive := step_pos digits precision
  exact roundToPrecision_eq_iff.mpr ⟨onGrid, by omega, by omega⟩

theorem roundToPrecision_add {offset : Int} {digits precision : Nat} (value : Int)
    (onGrid : step digits precision ∣ offset) :
    roundToPrecision (value + offset) digits precision =
      roundToPrecision value digits precision + offset := by
  obtain ⟨rounded, down, up⟩ := roundsHalfUp_roundToPrecision value digits precision
  exact roundToPrecision_eq_iff.mpr ⟨Int.dvd_add rounded onGrid, by omega, by omega⟩

theorem roundToPrecision_mono {left right : Int} (digits precision : Nat) (order : left ≤ right) :
    roundToPrecision left digits precision ≤ roundToPrecision right digits precision := by
  apply Int.not_lt.mp
  intro crossed
  have nearLeft := roundToPrecision_near left digits precision
  have nearRight := roundToPrecision_near right digits precision
  have same := eq_of_near (step_dvd_roundToPrecision left digits precision)
    (step_dvd_roundToPrecision right digits precision) (by omega) (by omega)
  omega

theorem roundToPrecision_le {value bound : Int} {digits precision : Nat}
    (onGrid : step digits precision ∣ bound) (below : value ≤ bound) :
    roundToPrecision value digits precision ≤ bound := by
  calc roundToPrecision value digits precision
    _ ≤ roundToPrecision bound digits precision := roundToPrecision_mono digits precision below
    _ = bound := roundToPrecision_of_dvd onGrid

theorem le_roundToPrecision {value bound : Int} {digits precision : Nat}
    (onGrid : step digits precision ∣ bound) (above : bound ≤ value) :
    bound ≤ roundToPrecision value digits precision := by
  calc bound
    _ = roundToPrecision bound digits precision := (roundToPrecision_of_dvd onGrid).symm
    _ ≤ roundToPrecision value digits precision := roundToPrecision_mono digits precision above

/-- Rounding is the same in units a thousand times finer. -/
theorem roundToPrecision_thousand {digits precision : Nat} (few : precision ≤ digits) (value : Int) :
    roundToPrecision (value * 1000) (digits + 3) precision =
      roundToPrecision value digits precision * 1000 := by
  obtain ⟨onGrid, down, up⟩ := roundsHalfUp_roundToPrecision value digits precision
  rw [roundToPrecision_eq_iff, step_thousand few]
  exact ⟨Int.mul_dvd_mul onGrid (Int.dvd_refl 1000), by omega, by omega⟩

theorem exists_word? {value : Int} :
    (∃ word, word? value = some word) ↔ -(twoTo 63 : Int) ≤ value ∧ value < twoTo 63 := by
  unfold word?
  split
  next fits => exact ⟨fun _ => fits, fun _ => ⟨_, rfl⟩⟩
  next wide => exact ⟨nofun, fun fits => absurd fits wide⟩

theorem word?_eq_some {value : Int} {word : Int64} :
    word? value = some word ↔ word.toInt = value := by
  have low := Int64.le_toInt word
  have high := Int64.toInt_lt word
  have bound : twoTo 63 = 2 ^ 63 := rfl
  unfold word?
  constructor
  · intro h
    split at h
    next fits =>
      cases h
      exact Int64.toInt_ofInt_of_le (by omega) (by omega)
    next => cases h
  · rintro rfl
    rw [if_pos (by omega), Int64.ofInt_toInt]

end TypeBridge.Temporal
