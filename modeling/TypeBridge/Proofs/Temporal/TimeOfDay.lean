import TypeBridge.Column.WriteStrategy
import TypeBridge.Proofs.Temporal.RoundTrip

/-!
Times of day as picoseconds since midnight. Both ways they are rounded to the grid of a precision, and what
comes to the end of the day is counted as its start. The leap second at the end of the day alone goes past
that point, and most of it does not come back into the day.
-/
namespace TypeBridge.Temporal

variable {precision : Nat}

/-- The multiple of a unit that is next to a number, counted modulo the day. -/
def RoundsInDay (unit value rounded : Int) : Prop :=
  ∃ exact, RoundsHalfUp unit value exact ∧ rounded = exact % picosPerDay

theorem roundsInDay_picosOfDay {time : TimeOfDay} (plain : time.isLeap = false) (precision : Nat) :
    RoundsInDay (step 12 precision) (time.nanoOfDay * 1000) (picosOfDay time precision) :=
  ⟨_, roundsHalfUp_roundToPrecision .., picosOfDay_eq plain precision⟩

theorem roundsInDay_timeOfPicos {picos : Int} {time : TimeOfDay} (fine : precision ≤ 9)
    (taken : timeOfPicos picos precision = .ok time) : time.isLeap = false ∧
      RoundsInDay (step 12 precision) picos (time.nanoOfDay * 1000) := by
  obtain ⟨-, plain, counted⟩ := (timeOfPicos_eq_ok fine).mp taken
  exact ⟨plain, _, roundsHalfUp_roundToPrecision .., counted⟩

/-- Up to nine digits, a time of day that is no leap second decodes to picoseconds within the day and on the
grid, which are its own rounded modulo the day, and these come back as a time of day with just as many
picoseconds on every finer grid. Picoseconds are taken within the day and nowhere else, as a time of day
that counts them rounded modulo the day. -/
theorem timesOfDay_round_in_day (fine : precision ≤ 9) :
    (∀ time : TimeOfDay, time.isLeap = false →
      (0 ≤ picosOfDay time precision ∧ picosOfDay time precision < picosPerDay) ∧
      step 12 precision ∣ picosOfDay time precision ∧
      RoundsInDay (step 12 precision) (time.nanoOfDay * 1000) (picosOfDay time precision) ∧
      ∃ again, timeOfPicos (picosOfDay time precision) precision = .ok again ∧
        ∀ finer, precision ≤ finer → picosOfDay again finer = picosOfDay time precision) ∧
    ∀ picos : Int,
      ((∃ time, timeOfPicos picos precision = .ok time) ↔ 0 ≤ picos ∧ picos < picosPerDay) ∧
      ∀ time, timeOfPicos picos precision = .ok time → time.isLeap = false ∧
        RoundsInDay (step 12 precision) picos (time.nanoOfDay * 1000) := by
  constructor
  · intro time plain
    obtain ⟨within, onGrid⟩ := picosOfDay_spec plain precision
    exact ⟨within, onGrid, roundsInDay_picosOfDay plain precision, timeOfPicos_spec fine within onGrid⟩
  · intro picos
    exact ⟨exists_timeOfPicos fine, fun time taken => roundsInDay_timeOfPicos fine taken⟩

/-- The last nanosecond of the day is midnight in whole seconds, and so is, in nanoseconds, the last
picosecond, which is taken. -/
theorem timesOfDay_round_in_day_midnight :
    let late : TimeOfDay := ⟨86399, 999999999, by decide, by decide⟩
    picosOfDay late 0 = 0 ∧ RoundsInDay (step 12 0) (late.nanoOfDay * 1000) 0 ∧
      timeOfPicos 86399999999999999 9 = .ok .midnight ∧
      RoundsInDay (step 12 9) 86399999999999999 0 ∧
      ¬∃ time, timeOfPicos picosPerDay 9 = .ok time := by
  intro late
  have wrapped : picosOfDay late 0 = 0 := by decide
  have taken : timeOfPicos 86399999999999999 9 = .ok .midnight := by rfl
  obtain ⟨times, -⟩ := @timesOfDay_round_in_day 0 (by decide)
  obtain ⟨-, -, rounds, -⟩ := times late rfl
  obtain ⟨-, words⟩ := @timesOfDay_round_in_day 9 (by decide)
  refine ⟨wrapped, wrapped ▸ rounds, taken, ((words _).2 _ taken).2, ?_⟩
  rw [(words picosPerDay).1]
  decide

/-- Whether a time of day is no farther from the first step of the next day than from its midnight. -/
def PastMidnight (time : TimeOfDay) (precision : Nat) : Prop :=
  2 * picosPerDay + step 12 precision ≤ 2 * (time.nanoOfDay * 1000)

instance (time : TimeOfDay) (precision : Nat) : Decidable (PastMidnight time precision) :=
  inferInstanceAs (Decidable (_ ≤ _))

/-- Only a leap second can be there, and only the last one of the day. -/
theorem leap_of_pastMidnight {time : TimeOfDay} (past : PastMidnight time precision) :
    time.isLeap = true ∧ time.second = 86399 := by
  have seconds := time.second_lt
  have nanoseconds := time.nanosecond_lt
  have positive := step_pos 12 precision
  simp only [PastMidnight, picosPerDay, TimeOfDay.nanoOfDay] at past
  rw [TimeOfDay.isLeap, decide_eq_true_eq]
  omega

theorem picosOfDay_nonneg (time : TimeOfDay) (precision : Nat) : 0 ≤ picosOfDay time precision := by
  have natural := le_roundToPrecision (Int.dvd_zero (step 12 precision))
    (show 0 ≤ (time.nanoOfDay : Int) * 1000 by omega)
  simp only [picosOfDay]
  split
  next => exact Int.le_refl 0
  next => exact natural

/-- What does not reach half a step past midnight is rounded to midnight at most, and that is wrapped. -/
theorem picosOfDay_lt_iff (time : TimeOfDay) (precision : Nat) :
    picosOfDay time precision < picosPerDay ↔ ¬PastMidnight time precision := by
  have day := step_dvd_picosPerDay precision
  obtain ⟨onGrid, down, up⟩ := roundsHalfUp_roundToPrecision (time.nanoOfDay * 1000) 12 precision
  have next := @eq_of_near _ picosPerDay _ day onGrid
  have positive : 0 < picosPerDay := by decide
  have unit := step_pos 12 precision
  simp only [picosOfDay, PastMidnight]
  split <;> omega

/-- Every time of day decodes to a number of picoseconds, leap seconds too. It lies within the day, and is
taken back, unless the time is past midnight, as only the last leap second of the day can be. -/
theorem decoded_time_inDay_iff (fine : precision ≤ 9) (time : TimeOfDay) :
    ∃ picos : Int64, (ReadStrategy.time precision).decode (.time time) = .ok (.time picos) ∧
      ((0 ≤ picos.toInt ∧ picos.toInt < picosPerDay) ↔ ¬PastMidnight time precision) ∧
      ((∃ bound, (WriteStrategy.time precision).encode (.time picos) = .ok bound) ↔
        ¬PastMidnight time precision) ∧
      (PastMidnight time precision → time.isLeap = true ∧ time.second = 86399) := by
  have within : (0 ≤ picosOfDay time precision ∧ picosOfDay time precision < picosPerDay) ↔
      ¬PastMidnight time precision := by
    rw [← picosOfDay_lt_iff]
    exact and_iff_right (picosOfDay_nonneg time precision)
  have word := toInt_picosOfDay time precision
  refine ⟨Int64.ofInt (picosOfDay time precision), rfl, ?_, ?_, leap_of_pastMidnight⟩
  · rw [word]
    exact within
  · rw [← within, ← exists_timeOfPicos fine, WriteStrategy.encode, word]
    simp only [map_eq_ok]
    constructor
    · rintro ⟨bound, time, taken, -⟩
      exact ⟨time, taken⟩
    · rintro ⟨time, taken⟩
      exact ⟨.time time, time, taken, rfl⟩

/-- The start of the last leap second is midnight and is taken back. -/
theorem decoded_time_inDay_iff_leapStart :
    let leap : TimeOfDay := ⟨86399, 1000000000, by decide, by decide⟩
    ¬PastMidnight leap 9 ∧ (ReadStrategy.time 9).decode (.time leap) = .ok (.time 0) ∧
      ∃ bound, (WriteStrategy.time 9).encode (.time 0) = .ok bound := by
  intro leap
  have before : ¬PastMidnight leap 9 := by decide
  have wrapped : picosOfDay leap 9 = 0 := by decide
  have decoded : (ReadStrategy.time 9).decode (.time leap) = .ok (.time 0) := by
    rw [ReadStrategy.decode, wrapped]
    rfl
  obtain ⟨picos, decodes, -, taken, -⟩ := decoded_time_inDay_iff (show 9 ≤ 9 by decide) leap
  cases decoded.symm.trans decodes
  exact ⟨before, decoded, taken.mpr before⟩

/-- Half of the last leap second has passed, and the time decodes to half a second more than a day, which
is not taken back. -/
theorem leapSecond_leaves_day :
    let leap : TimeOfDay := ⟨86399, 1500000000, by decide, by decide⟩
    (ReadStrategy.time 9).decode (.time leap) = .ok (.time 86400500000000000) ∧
      ¬(86400500000000000 : Int64).toInt < picosPerDay ∧
      ¬∃ bound, (WriteStrategy.time 9).encode (.time 86400500000000000) = .ok bound := by
  intro leap
  have picos : picosOfDay leap 9 = 86400500000000000 := by decide
  refine ⟨?_, by decide, ?_⟩
  · rw [ReadStrategy.decode, picos]
    rfl
  · rintro ⟨bound, taken⟩
    cases taken

end TypeBridge.Temporal
