import TypeBridge.Proofs.Column.Decoding
import TypeBridge.Proofs.Temporal.Epoch

/-!
Dates up to the year zero, which are moved back a year when they are read. The year before a leap year has
no 29th of February, so that day is moved to the place of the 28th. All other dates keep their order, also
across the start of the year one; the two days are told apart by the time of day alone.
-/
namespace TypeBridge

namespace Date

variable {left right date earlier leftCorrected rightCorrected : Date}

theorem daysInMonth_february (year : Int) :
    daysInMonth year 2 = if isLeapYear year then 29 else 28 := by
  cases leap : isLeapYear year <;> simp [daysInMonth, leap, monthLengths]

theorem daysInMonth_congr {month : Nat} (known : 1 ≤ month) (other : month ≠ 2) (year another : Int) :
    daysInMonth year month = daysInMonth another month := by
  obtain ⟨passed, rfl⟩ : ∃ passed, month = passed + 1 := ⟨month - 1, by omega⟩
  match passed with
  | 0 => rfl
  | 1 => exact absurd rfl other
  | passed + 2 => rfl

theorem isLeapYear_before {year : Int} (leap : isLeapYear year = true) :
    isLeapYear (year - 1) = false := by
  rw [isLeapYear_eq_true] at leap
  rw [Bool.eq_false_iff, ne_eq, isLeapYear_eq_true]
  omega

def IsLeapDay (date : Date) : Prop := date.month = 2 ∧ date.day = 29

instance (date : Date) : Decidable date.IsLeapDay := inferInstanceAs (Decidable (_ ∧ _))

theorem isLeapYear_of_isLeapDay (leapDay : date.IsLeapDay) : isLeapYear date.year = true := by
  have fits := date.day_mem.2
  rw [leapDay.1, leapDay.2, daysInMonth_february] at fits
  split at fits
  next leap => exact leap
  next => omega

theorem day_yearEarlier (date : Date) :
    min date.day (daysInMonth (date.year - 1) date.month) = if date.IsLeapDay then 28 else date.day := by
  have fits := date.day_mem.2
  by_cases leapDay : date.IsLeapDay
  · have common := isLeapYear_before (isLeapYear_of_isLeapDay leapDay)
    rw [if_pos leapDay, leapDay.1, leapDay.2, daysInMonth_february, common]
    rfl
  · rw [if_neg leapDay]
    apply Nat.min_eq_left
    by_cases february : date.month = 2
    · have notLast : date.day ≠ 29 := fun last => leapDay ⟨february, last⟩
      rw [february, daysInMonth_february] at fits ⊢
      split at fits <;> split <;> omega
    · rw [daysInMonth_congr date.month_mem.1 february (date.year - 1) date.year]
      exact fits

theorem yearEarlier?_eq_some (h : date.yearEarlier? = some earlier) :
    earlier.year = date.year - 1 ∧ earlier.month = date.month ∧
      earlier.day = if date.IsLeapDay then 28 else date.day := by
  rw [← day_yearEarlier]
  exact make?_eq_some h

theorem exists_yearEarlier? : (∃ earlier, date.yearEarlier? = some earlier) ↔ -262143 < date.year := by
  constructor
  · rintro ⟨earlier, found⟩
    have known := earlier.year_mem
    obtain ⟨year, -⟩ := yearEarlier?_eq_some found
    omega
  · intro later
    have known := date.year_mem
    have shortest := @daysInMonth_pos (date.year - 1) date.month date.month_mem
    have starts := date.day_mem.1
    exact ⟨_, dif_pos ⟨by omega, date.month_mem, by omega, Nat.min_le_right ..⟩⟩

theorem epochDay_congr (year : left.year = right.year) (month : left.month = right.month)
    (day : left.day = right.day) : left.epochDay = right.epochDay := by
  rw [epochDay, epochDay, year, month, day]

/-- What a date is corrected to: itself from the year one on, and before it the date of a year earlier, for
which a leap day goes to the 28th. -/
structure CorrectsTo (date corrected : Date) : Prop where
  year : corrected.year = if 0 < date.year then date.year else date.year - 1
  month : corrected.month = date.month
  day : corrected.day = if date.year ≤ 0 ∧ date.IsLeapDay then 28 else date.day

/-- Whether two dates are the last days of one February, in a leap year up to the year zero. -/
def ShareDay (left right : Date) : Prop :=
  left.year = right.year ∧ left.month = 2 ∧ left.day = 28 ∧ right.IsLeapDay ∧ right.year ≤ 0

instance (left right : Date) : Decidable (ShareDay left right) := inferInstanceAs (Decidable (_ ∧ _))

theorem not_shareDay_self (date : Date) : ¬ShareDay date date := by
  rintro ⟨-, -, notLeapDay, leapDay, -⟩
  exact absurd (notLeapDay.symm.trans leapDay.2) (by decide)

namespace CorrectsTo

theorem late (afterZero : 0 < date.year) : date.CorrectsTo date where
  year := by rw [if_pos afterZero]
  month := rfl
  day := by rw [if_neg fun early => Int.not_le.mpr afterZero early.1]

theorem early (upToZero : date.year ≤ 0) (found : date.yearEarlier? = some earlier) :
    date.CorrectsTo earlier := by
  obtain ⟨year, month, day⟩ := yearEarlier?_eq_some found
  refine ⟨?_, month, ?_⟩
  · rw [if_neg (Int.not_lt.mpr upToZero), year]
  · simp only [upToZero, true_and, day]

theorem year_congr (first : left.CorrectsTo leftCorrected) (second : right.CorrectsTo rightCorrected)
    (same : left.year = right.year) : leftCorrected.year = rightCorrected.year := by
  rw [first.year, second.year, same]

theorem epochDay_congr (first : left.CorrectsTo leftCorrected)
    (second : right.CorrectsTo rightCorrected) (same : left = right) :
    leftCorrected.epochDay = rightCorrected.epochDay := by
  subst same
  exact Date.epochDay_congr (first.year.trans second.year.symm) (first.month.trans second.month.symm)
    (first.day.trans second.day.symm)

theorem epochDay_of_shareDay (first : left.CorrectsTo leftCorrected)
    (second : right.CorrectsTo rightCorrected) (shared : ShareDay left right) :
    leftCorrected.epochDay = rightCorrected.epochDay := by
  obtain ⟨sameYear, february, notLeapDay, leapDay, upToZero⟩ := shared
  apply Date.epochDay_congr (year_congr first second sameYear)
  · rw [first.month, second.month, february, leapDay.1]
  · rw [first.day, second.day, notLeapDay, ite_self, if_pos ⟨upToZero, leapDay⟩]

/-- A later date is corrected to a later one, unless the two share a day. -/
theorem before_of_before (first : left.CorrectsTo leftCorrected)
    (second : right.CorrectsTo rightCorrected) (order : left.before right)
    (apart : ¬ShareDay left right) : leftCorrected.before rightCorrected := by
  have months := first.month
  have otherMonths := second.month
  rcases order with earlier | ⟨sameYear, earlier | ⟨sameMonth, earlier⟩⟩
  · left
    rw [first.year, second.year]
    split <;> split <;> omega
  · exact .inr ⟨year_congr first second sameYear, .inl (by omega)⟩
  · -- Within a month only a leap day is moved, and only onto the 28th.
    refine .inr ⟨year_congr first second sameYear, .inr ⟨by omega, ?_⟩⟩
    rw [first.day, second.day]
    simp only [ShareDay] at apart
    split <;> split <;> simp only [IsLeapDay] at * <;> omega

end CorrectsTo

end Date

namespace Temporal

open Date (ShareDay)

variable {value corrected left right : DateTime}

theorem correctsTo_of_ok (moved : correctEarlyYear value = .ok corrected) :
    corrected.time = value.time ∧ value.date.CorrectsTo corrected.date := by
  unfold correctEarlyYear at moved
  split at moved
  next late =>
    cases moved
    exact ⟨rfl, .late late⟩
  next early =>
    obtain ⟨date, found, rfl⟩ := Option.map_eq_some_iff.mp (orRange_eq_ok.mp moved)
    exact ⟨rfl, .early (Int.not_lt.mp early) found⟩

theorem exists_correctEarlyYear :
    (∃ corrected, correctEarlyYear value = .ok corrected) ↔ -262143 < value.date.year := by
  unfold correctEarlyYear
  split
  next late => exact ⟨fun _ => by omega, fun _ => ⟨value, rfl⟩⟩
  next =>
    rw [← Date.exists_yearEarlier?]
    simp only [orRange_eq_ok, DateTime.yearEarlier?, Option.map_eq_some_iff]
    constructor
    · rintro ⟨corrected, date, found, -⟩
      exact ⟨date, found⟩
    · rintro ⟨date, found⟩
      exact ⟨_, date, found, rfl⟩

theorem decodes_dateTime {micros : Int64} :
    ReadStrategy.dateAsTimestamp.decode (.dateTime value) = .ok (.shortTimestamp micros) ↔
      ∃ corrected, correctEarlyYear value = .ok corrected ∧ epochMicros corrected 0 = .ok micros := by
  rw [ReadStrategy.decode_eq_ok rfl]
  constructor
  · intro decodes
    cases decodes with
    | dateAsTimestamp origin moved counted =>
      cases origin
      exact ⟨_, moved, counted⟩
  · rintro ⟨corrected, moved, counted⟩
    exact .dateAsTimestamp (.dateTime value) moved counted

theorem micros_of_wholeSecond {micros : Int64} (whole : value.time.nanosecond = 0)
    (counted : epochMicros value 0 = .ok micros) : micros.toInt = value.epochSecond * 1000000 := by
  have seconds : value.epochNano = value.epochSecond * 1000000000 := by
    rw [DateTime.epochNano, whole]
    omega
  have onGrid : step 9 0 ∣ value.epochNano := seconds ▸ Int.dvd_mul_left ..
  have nanos := (epochMicros_eq_ok (by decide)).mp counted
  rw [roundToPrecision_of_dvd onGrid, seconds] at nanos
  omega

theorem exists_decoded_dateTime : (∃ micros,
    ReadStrategy.dateAsTimestamp.decode (.dateTime value) = .ok (.shortTimestamp micros)) ↔
      -262143 < value.date.year := by
  simp only [decodes_dateTime, ← exists_correctEarlyYear]
  constructor
  · rintro ⟨micros, corrected, moved, -⟩
    exact ⟨corrected, moved⟩
  · rintro ⟨corrected, moved⟩
    obtain ⟨micros, counted⟩ := @exists_epochMicros 0 corrected (by decide)
    exact ⟨micros, corrected, moved, counted⟩

/-- The timestamp of a whole second has the day that the date is corrected to and the second of the day as it
was. -/
theorem micros_of_decodes {micros : Int64} (whole : value.time.nanosecond = 0)
    (decodes : ReadStrategy.dateAsTimestamp.decode (.dateTime value) = .ok (.shortTimestamp micros)) :
    ∃ corrected, value.date.CorrectsTo corrected ∧
      micros.toInt = (corrected.epochDay * 86400 + value.time.second) * 1000000 := by
  obtain ⟨corrected, moved, counted⟩ := decodes_dateTime.mp decodes
  obtain ⟨time, date⟩ := correctsTo_of_ok moved
  have micros := micros_of_wholeSecond (time ▸ whole) counted
  rw [DateTime.epochSecond, time] at micros
  exact ⟨corrected.date, date, micros⟩

/-- Of two whole seconds the later one decodes to a later timestamp, unless they lie on two days that share
one and the time of day is not later on the second. They decode to the same if it is the same then, and
only then. -/
theorem decoded_date_order_iff {first second : Int64} (wholeLeft : left.time.nanosecond = 0)
    (wholeRight : right.time.nanosecond = 0) (order : left.before right)
    (decodesLeft :
      ReadStrategy.dateAsTimestamp.decode (.dateTime left) = .ok (.shortTimestamp first))
    (decodesRight :
      ReadStrategy.dateAsTimestamp.decode (.dateTime right) = .ok (.shortTimestamp second)) :
    (first < second ↔ ¬(ShareDay left.date right.date ∧ right.time.second ≤ left.time.second)) ∧
      (first = second ↔ ShareDay left.date right.date ∧ right.time.second = left.time.second) := by
  obtain ⟨leftCorrected, leftMoved, leftMicros⟩ := micros_of_decodes wholeLeft decodesLeft
  obtain ⟨rightCorrected, rightMoved, rightMicros⟩ := micros_of_decodes wholeRight decodesRight
  have leftSecond := left.time.second_lt
  have rightSecond := right.time.second_lt
  rw [Int64.lt_iff_toInt_lt, ← Int64.toInt_inj]
  rcases order with dates | ⟨sameDate, times⟩
  · by_cases shared : ShareDay left.date right.date
    · have day := leftMoved.epochDay_of_shareDay rightMoved shared
      simp only [shared, true_and]
      omega
    · have day := Date.before_iff.mp (leftMoved.before_of_before rightMoved dates shared)
      simp only [shared, false_and, not_false_eq_true, iff_true, iff_false]
      omega
  · have day := leftMoved.epochDay_congr rightMoved sameDate
    have apart : ¬ShareDay left.date right.date := sameDate ▸ Date.not_shareDay_self left.date
    simp only [apart, false_and, not_false_eq_true, iff_true, iff_false]
    omega

/-- At noon of the 28th of February of the year zero and at the start of the 29th the timestamps come in the
reverse order. The last second of that year comes before the first one of the year one. -/
theorem decoded_date_order_iff_yearZero :
    let noon : DateTime := ⟨⟨0, 2, 28, by decide, by decide, by decide⟩, ⟨43200, 0, by decide, by decide⟩⟩
    let leapDay : DateTime := ⟨⟨0, 2, 29, by decide, by decide, by decide⟩, .midnight⟩
    let eve : DateTime := ⟨⟨0, 12, 31, by decide, by decide, by decide⟩, ⟨86399, 0, by decide, by decide⟩⟩
    let newYear : DateTime := ⟨⟨1, 1, 1, by decide, by decide, by decide⟩, .midnight⟩
    (noon.before leapDay ∧ ∃ first second,
      ReadStrategy.dateAsTimestamp.decode (.dateTime noon) = .ok (.shortTimestamp first) ∧
      ReadStrategy.dateAsTimestamp.decode (.dateTime leapDay) = .ok (.shortTimestamp second) ∧
      ¬first < second) ∧
    eve.before newYear ∧ ∃ first second,
      ReadStrategy.dateAsTimestamp.decode (.dateTime eve) = .ok (.shortTimestamp first) ∧
      ReadStrategy.dateAsTimestamp.decode (.dateTime newYear) = .ok (.shortTimestamp second) ∧
      first < second := by
  intro noon leapDay eve newYear
  have noonFirst : noon.before leapDay := .inl (.inr ⟨rfl, .inr ⟨rfl, by decide⟩⟩)
  have eveFirst : eve.before newYear := .inl (.inl (by decide))
  obtain ⟨_, noonDecodes⟩ := (@exists_decoded_dateTime noon).mpr (by decide)
  obtain ⟨_, leapDecodes⟩ := (@exists_decoded_dateTime leapDay).mpr (by decide)
  obtain ⟨_, eveDecodes⟩ := (@exists_decoded_dateTime eve).mpr (by decide)
  obtain ⟨_, newDecodes⟩ := (@exists_decoded_dateTime newYear).mpr (by decide)
  refine ⟨⟨noonFirst, _, _, noonDecodes, leapDecodes, ?_⟩, eveFirst, _, _, eveDecodes, newDecodes, ?_⟩
  · rw [(decoded_date_order_iff rfl rfl noonFirst noonDecodes leapDecodes).1]
    decide
  · rw [(decoded_date_order_iff rfl rfl eveFirst eveDecodes newDecodes).1]
    decide

/-- The 29th of February of the year zero decodes to the same as the day before it. -/
theorem leapDay_decodes_as_dayBefore :
    let dayBefore : DateTime := ⟨⟨0, 2, 28, by decide, by decide, by decide⟩, .midnight⟩
    let leapDay : DateTime := ⟨⟨0, 2, 29, by decide, by decide, by decide⟩, .midnight⟩
    dayBefore.before leapDay ∧ ∃ micros,
      ReadStrategy.dateAsTimestamp.decode (.dateTime dayBefore) = .ok (.shortTimestamp micros) ∧
      ReadStrategy.dateAsTimestamp.decode (.dateTime leapDay) = .ok (.shortTimestamp micros) := by
  intro dayBefore leapDay
  have counted : epochMicros ⟨⟨-1, 2, 28, by decide, by decide, by decide⟩, .midnight⟩ 0 =
      .ok (-62193744000000000) := (epochMicros_eq_ok (by decide)).mpr (by decide)
  refine ⟨.inl (.inr ⟨rfl, .inr ⟨rfl, by decide⟩⟩), -62193744000000000, ?_, ?_⟩
  · exact decodes_dateTime.mpr ⟨_, by rfl, counted⟩
  · exact decodes_dateTime.mpr ⟨_, by rfl, counted⟩

end Temporal

end TypeBridge
