import TypeBridge.Proofs.Temporal.RoundTrip

/-!
Days and timestamps since the epoch. Every date has a day and every date-time a timestamp, short or long,
which is the nearest on the grid of its precision; the days and timestamps that the calendar has are given
back as the dates and date-times they stand for.
-/
namespace TypeBridge.Temporal

variable {value : DateTime} {precision : Nat}

theorem dateOfEpochDay_eq_ok {day : Int} {date : Date} :
    dateOfEpochDay day = .ok date ↔ date.epochDay = day := by
  rw [dateOfEpochDay, orRange_eq_ok, Date.ofEpochDay?_eq_some]

theorem exists_dateOfEpochDay {day : Int} :
    (∃ date, dateOfEpochDay day = .ok date) ↔ Date.InCalendar day := by
  simp only [dateOfEpochDay, orRange_eq_ok]
  exact Date.exists_ofEpochDay?

theorem dateOfEpochDay_outside {day : Int} (outside : ¬Date.InCalendar day) :
    dateOfEpochDay day = .error (.invalidValue (.range (.epochDay day))) := by
  rw [dateOfEpochDay, Date.ofEpochDay?_eq_none.mpr outside]
  rfl

/-- Counted from the first day of the year one, the days of the calendar fit into 32 bits, so that none is
lost where they are narrowed to so many. -/
theorem narrow_of_inCalendar {day : Int} (inside : Date.InCalendar day) :
    -(twoTo 31 : Int) ≤ day + Date.epochOffset + 1 ∧ day + Date.epochOffset + 1 < twoTo 31 := by
  have firstDay : Date.first.epochDay = -96465292 := rfl
  have lastDay : Date.last.epochDay = 95026236 := rfl
  have offset : Date.epochOffset = 719162 := rfl
  have bound : twoTo 31 = 2147483648 := rfl
  obtain ⟨early, late⟩ := inside
  omega

/-- The days of the calendar are the days of its dates, each of one date, and fit into 32 bits from the year
one on; all other days are refused. Later dates have later days, and the day after a date, which all dates
but the last have, has the next. -/
theorem epochDay_orders_calendar :
    (∀ date : Date, dateOfEpochDay date.epochDay = .ok date) ∧
    (∀ day : Int, (∃ date, dateOfEpochDay day = .ok date) ↔ Date.InCalendar day) ∧
    (∀ day date, dateOfEpochDay day = .ok date → date.epochDay = day) ∧
    (∀ day, ¬Date.InCalendar day →
      dateOfEpochDay day = .error (.invalidValue (.range (.epochDay day)))) ∧
    (∀ day, Date.InCalendar day →
      -(twoTo 31 : Int) ≤ day + Date.epochOffset + 1 ∧ day + Date.epochOffset + 1 < twoTo 31) ∧
    (∀ left right : Date, left.before right ↔ left.epochDay < right.epochDay) ∧
    (∀ date following : Date, date.next? = some following →
      following.epochDay = date.epochDay + 1) ∧
    ∀ date : Date, date.next? = none ↔ date = Date.last := by
  refine ⟨?_, ?_, ?_, ?_, ?_, ?_, ?_, ?_⟩
  · intro date
    exact dateOfEpochDay_eq_ok.mpr rfl
  · intro day
    exact exists_dateOfEpochDay
  · intro day date found
    exact dateOfEpochDay_eq_ok.mp found
  · intro day outside
    exact dateOfEpochDay_outside outside
  · intro day inside
    exact narrow_of_inCalendar inside
  · intro left right
    exact Date.before_iff
  · intro date following after
    exact Date.epochDay_next? after
  · intro date
    exact Date.next?_eq_none

/-- The leap day of the year -400 and the day after it; and the ends of the words, which have no date. -/
theorem epochDay_orders_calendar_leapDay :
    let leapDay : Date := ⟨-400, 2, 29, by decide, by decide, by decide⟩
    let following : Date := ⟨-400, 3, 1, by decide, by decide, by decide⟩
    leapDay.next? = some following ∧ dateOfEpochDay (leapDay.epochDay + 1) = .ok following ∧
      leapDay.before following ∧
      dateOfEpochDay (-twoTo 63) = .error (.invalidValue (.range (.epochDay (-twoTo 63)))) ∧
      dateOfEpochDay (twoTo 63 - 1) = .error (.invalidValue (.range (.epochDay (twoTo 63 - 1)))) := by
  intro leapDay following
  have after : leapDay.next? = some following := rfl
  obtain ⟨found, -, -, outside, -, order, day, -⟩ := epochDay_orders_calendar
  have counted := day leapDay following after
  refine ⟨after, ?_, (order leapDay following).mpr (by omega), outside _ (by decide),
    outside _ (by decide)⟩
  rw [← counted]
  exact found following

theorem exists_epochMicros (value : DateTime) (short : precision ≤ 6) :
    ∃ micros, epochMicros value precision = .ok micros := by
  obtain ⟨whole, thousand⟩ :=
    Int.dvd_trans (step_dvd short) (step_dvd_roundToPrecision value.epochNano 9 precision)
  have unit : step 9 6 = 1000 := rfl
  have most : step 9 precision ≤ 1000000000 := step_le 9 precision
  have near := roundToPrecision_near value.epochNano 9 precision
  have inside := value.epochNano_bounds
  have bound : twoTo 63 = 9223372036854775808 := rfl
  rw [unit] at thousand
  -- The calendar is shorter than the word on both sides.
  obtain ⟨micros, fits⟩ := exists_word?.mpr
    (show -(twoTo 63 : Int) ≤ whole ∧ whole < twoTo 63 by omega)
  refine ⟨micros, (epochMicros_eq_ok short).mpr ?_⟩
  rw [word?_eq_some.mp fits, thousand]
  omega

theorem epochMicros_rounds {micros : Int64} (short : precision ≤ 6)
    (counted : epochMicros value precision = .ok micros) :
    step 6 precision ∣ micros.toInt ∧
      RoundsHalfUp (step 9 precision) value.epochNano (micros.toInt * 1000) := by
  have rounds := roundToPrecision_eq_iff.mp ((epochMicros_eq_ok short).mp counted).symm
  refine ⟨?_, rounds⟩
  have onGrid := rounds.onGrid
  rw [step_thousand short] at onGrid
  exact Int.dvd_of_mul_dvd_mul_right (by decide) onGrid

/-- A leap second apart, a later date-time has no earlier timestamp. -/
theorem epochMicros_mono {earlier later : DateTime} {left right : Int64} (short : precision ≤ 6)
    (plain : earlier.isLeap = false) (order : earlier.before later)
    (first : epochMicros earlier precision = .ok left)
    (second : epochMicros later precision = .ok right) : left ≤ right := by
  have nanos := DateTime.epochNano_lt_of_before plain order
  have rounded := roundToPrecision_mono 9 precision (Int.le_of_lt nanos)
  rw [← (epochMicros_eq_ok short).mp first, ← (epochMicros_eq_ok short).mp second] at rounded
  rw [Int64.le_iff_toInt_le]
  omega

theorem exists_dateTimeOfEpochMicros {micros : Int} :
    (∃ value, dateTimeOfEpochMicros micros = .ok value) ↔
      DateTime.first.epochNano ≤ micros * 1000 ∧ micros * 1000 ≤ DateTime.last.epochNano := by
  simp only [dateTimeOfEpochMicros, dateTimeOfEpochNano, orRange_eq_ok]
  exact DateTime.exists_ofEpochNano?

theorem epochMicros_dateTimeOfEpochMicros {micros : Int64}
    (found : dateTimeOfEpochMicros micros.toInt = .ok value) : epochMicros value 6 = .ok micros := by
  have nanos := DateTime.epochNano_ofEpochNano? (orRange_eq_ok.mp found)
  rw [epochMicros_eq_ok (Nat.le_refl 6), nanos]
  symm
  exact roundToPrecision_of_dvd (Int.dvd_mul_left ..)

theorem dateTimeOfEpochMicros_epochMicros {micros : Int64} (plain : value.isLeap = false)
    (whole : 1000 ∣ value.time.nanosecond) (counted : epochMicros value 6 = .ok micros) :
    dateTimeOfEpochMicros micros.toInt = .ok value := by
  have onGrid : step 9 6 ∣ value.epochNano := by
    have unit : step 9 6 = 1000 := rfl
    rw [unit, DateTime.epochNano]
    omega
  have nanos := (epochMicros_eq_ok (Nat.le_refl 6)).mp counted
  rw [roundToPrecision_of_dvd onGrid] at nanos
  rw [dateTimeOfEpochMicros, dateTimeOfEpochNano, nanos, orRange_eq_ok]
  exact DateTime.ofEpochNano?_epochNano plain

/-- Up to six digits every date-time, a leap second too, has a short timestamp, which is the nearest on the
grid of the precision, and later date-times have no earlier ones. A word has a date-time just when it lies
between the first and the last, and is the timestamp of that; and a date-time of whole microseconds is
given back. -/
theorem epochMicros_nearest :
    (∀ (value : DateTime) (precision : Nat), precision ≤ 6 →
      ∃ micros, epochMicros value precision = .ok micros ∧ step 6 precision ∣ micros.toInt ∧
        RoundsHalfUp (step 9 precision) value.epochNano (micros.toInt * 1000)) ∧
    (∀ (earlier later : DateTime) (precision : Nat), precision ≤ 6 → earlier.isLeap = false →
      earlier.before later → ∀ left right, epochMicros earlier precision = .ok left →
        epochMicros later precision = .ok right → left ≤ right) ∧
    (∀ micros : Int64,
      ((∃ value, dateTimeOfEpochMicros micros.toInt = .ok value) ↔
        DateTime.first.epochNano ≤ micros.toInt * 1000 ∧
          micros.toInt * 1000 ≤ DateTime.last.epochNano) ∧
      ∀ value, dateTimeOfEpochMicros micros.toInt = .ok value → epochMicros value 6 = .ok micros) ∧
    ∀ value : DateTime, value.isLeap = false → 1000 ∣ value.time.nanosecond →
      ∃ micros, epochMicros value 6 = .ok micros ∧ dateTimeOfEpochMicros micros.toInt = .ok value := by
  refine ⟨?_, ?_, ?_, ?_⟩
  · intro value precision short
    obtain ⟨micros, counted⟩ := exists_epochMicros value short
    exact ⟨micros, counted, epochMicros_rounds short counted⟩
  · intro earlier later precision short plain order left right first second
    exact epochMicros_mono short plain order first second
  · intro micros
    exact ⟨exists_dateTimeOfEpochMicros, fun value => epochMicros_dateTimeOfEpochMicros⟩
  · intro value plain whole
    obtain ⟨micros, counted⟩ := exists_epochMicros value (Nat.le_refl 6)
    exact ⟨micros, counted, dateTimeOfEpochMicros_epochMicros plain whole counted⟩

/-- Half a microsecond before the epoch is counted as the epoch. The whole microsecond before it comes
earlier and is given back. -/
theorem epochMicros_nearest_beforeEpoch :
    let lastDay : Date := ⟨1969, 12, 31, by decide, by decide, by decide⟩
    let whole : DateTime := ⟨lastDay, ⟨86399, 999999000, by decide, by decide⟩⟩
    let tie : DateTime := ⟨lastDay, ⟨86399, 999999500, by decide, by decide⟩⟩
    epochMicros tie 6 = .ok 0 ∧ RoundsHalfUp (step 9 6) tie.epochNano 0 ∧
      whole.before tie ∧ epochMicros whole 6 = .ok (-1) ∧ (-1 : Int64) ≤ 0 ∧
      dateTimeOfEpochMicros (-1) = .ok whole := by
  intro lastDay whole tie
  have tieCounted : epochMicros tie 6 = .ok 0 := (epochMicros_eq_ok (Nat.le_refl 6)).mpr (by decide)
  have wholeCounted : epochMicros whole 6 = .ok (-1) :=
    (epochMicros_eq_ok (Nat.le_refl 6)).mpr (by decide)
  have earlier : whole.before tie := .inr ⟨rfl, .inr ⟨rfl, by decide⟩⟩
  obtain ⟨nearest, ordered, -, again⟩ := epochMicros_nearest
  obtain ⟨micros, counted, -, rounds⟩ := nearest tie 6 (by decide)
  cases tieCounted.symm.trans counted
  obtain ⟨before, countedBefore, found⟩ := again whole rfl ⟨999999, rfl⟩
  cases wholeCounted.symm.trans countedBefore
  exact ⟨tieCounted, rounds, earlier, wholeCounted,
    ordered whole tie 6 (by decide) rfl earlier (-1) 0 wholeCounted tieCounted, found⟩

theorem exists_longTimestamp (value : DateTime) (precision : Nat) :
    ∃ long, longTimestamp value precision = .ok long ∧ long.picosOfMicro.toNat < 1000000 := by
  have most : step 12 precision ≤ 1000000000000 := step_le 12 precision
  have near := roundToPrecision_near (value.epochNano * 1000) 12 precision
  have inside := value.epochNano_bounds
  have bound : twoTo 63 = 9223372036854775808 := rfl
  generalize rounded : roundToPrecision (value.epochNano * 1000) 12 precision = picos at near
  obtain ⟨micros, fits⟩ := exists_word?.mpr
    (show -(twoTo 63 : Int) ≤ picos / 1000000 ∧ picos / 1000000 < twoTo 63 by omega)
  have part : (picos % 1000000).toNat < UInt32.size := by
    rw [UInt32.size]
    omega
  refine ⟨⟨micros, UInt32.ofNat (picos % 1000000).toNat⟩, ?_, ?_⟩
  · rw [longTimestamp, rounded]
    exact bind_eq_ok.mpr ⟨micros, orRange_eq_ok.mpr fits, rfl⟩
  · rw [UInt32.toNat_ofNat_of_lt' part]
    omega

theorem longTimestamp_short {long : LongTimestamp} (short : precision ≤ 6)
    (placed : long.picosOfMicro.toNat < 1000000)
    (decoded : longTimestamp value precision = .ok long) :
    epochMicros value precision = .ok long.epochMicros ∧ long.picosOfMicro = 0 := by
  obtain ⟨micros, counted⟩ := exists_epochMicros value short
  have picos : long.epochMicros.toInt * 1000000 + long.picosOfMicro.toNat =
      micros.toInt * 1000 * 1000 := by
    calc long.picos
      _ = roundToPrecision (value.epochNano * 1000) 12 precision := picos_of_longTimestamp decoded
      _ = roundToPrecision value.epochNano 9 precision * 1000 :=
          roundToPrecision_thousand (Nat.le_trans short (by decide)) _
      _ = micros.toInt * 1000 * 1000 := by rw [(epochMicros_eq_ok short).mp counted]
  have same : long.epochMicros = micros := by
    apply Int64.toInt_inj.mp
    omega
  refine ⟨same ▸ counted, ?_⟩
  apply UInt32.toNat_inj.mp
  rw [UInt32.toNat_zero]
  omega

theorem dateTimeOfLongTimestamp_eq_ok {long : LongTimestamp} {stamp : DateTime} :
    dateTimeOfLongTimestamp long precision = .ok stamp ↔ stamp.isLeap = false ∧
      RoundsHalfUp (step 12 (min precision 9)) long.picos (stamp.epochNano * 1000) := by
  rw [dateTimeOfLongTimestamp, dateTimeOfEpochNano, orRange_eq_ok]
  constructor
  · intro found
    exact ⟨DateTime.isLeap_ofEpochNano? found,
      roundToPrecision_eq_iff.mp (epochNano_of_long found).symm⟩
  · rintro ⟨plain, rounds⟩
    rw [roundToPrecision_eq_iff.mpr rounds, Int.mul_ediv_cancel _ (by decide)]
    exact DateTime.ofEpochNano?_epochNano plain

/-- The second rounding finds the first one done, or has nothing to round before it. -/
theorem roundToPrecision_longTimestamp {long : LongTimestamp}
    (decoded : longTimestamp value precision = .ok long) :
    roundToPrecision long.picos 12 (min precision 9) =
      roundToPrecision value.epochNano 9 (min precision 9) * 1000 := by
  rw [picos_of_longTimestamp decoded]
  by_cases few : precision ≤ 9
  · rw [Nat.min_eq_left few, roundToPrecision_of_dvd (step_dvd_roundToPrecision ..),
      roundToPrecision_thousand few]
  · have nano : step 12 9 = 1000 := rfl
    have finer : step 12 precision ∣ step 12 9 := step_dvd (by omega)
    have exact : step 12 precision ∣ value.epochNano * 1000 :=
      Int.dvd_trans finer (nano ▸ Int.dvd_mul_left ..)
    rw [roundToPrecision_of_dvd exact, roundToPrecision_thousand (Nat.min_le_right ..)]

theorem dateTimeOfLongTimestamp_rounded {long : LongTimestamp} {nanos : Int}
    (decoded : longTimestamp value precision = .ok long)
    (rounds : RoundsHalfUp (step 9 (min precision 9)) value.epochNano nanos)
    (early : DateTime.first.epochNano ≤ nanos) (late : nanos ≤ DateTime.last.epochNano) :
    ∃ again, dateTimeOfLongTimestamp long precision = .ok again ∧ again.isLeap = false ∧
      again.epochNano = nanos := by
  obtain ⟨again, found⟩ := DateTime.exists_ofEpochNano?.mpr ⟨early, late⟩
  refine ⟨again, ?_, DateTime.isLeap_ofEpochNano? found, DateTime.epochNano_ofEpochNano? found⟩
  rw [dateTimeOfLongTimestamp, roundToPrecision_longTimestamp decoded,
    roundToPrecision_eq_iff.mpr rounds, Int.mul_ediv_cancel _ (by decide)]
  exact orRange_eq_ok.mpr found

theorem dateTimeOfLongTimestamp_self {long : LongTimestamp} (fine : 9 ≤ precision)
    (plain : value.isLeap = false) (decoded : longTimestamp value precision = .ok long) :
    dateTimeOfLongTimestamp long precision = .ok value := by
  rw [dateTimeOfLongTimestamp_eq_ok, ← roundToPrecision_eq_iff,
    roundToPrecision_longTimestamp decoded, Nat.min_eq_right fine,
    roundToPrecision_fine (Nat.le_refl 9)]
  exact ⟨plain, rfl⟩

/-- Every date-time, a leap second too, has a long timestamp in every precision, which is the nearest on its
grid and up to six digits the short one. A long timestamp, whatever its parts, is read back as the
date-time that is nearest to it on the grid of at most nine digits, when there is one; so a date-time comes
back rounded to these digits, and from nine digits on as it was. -/
theorem longTimestamp_nearest :
    (∀ (value : DateTime) (precision : Nat), ∃ long, longTimestamp value precision = .ok long ∧
      long.picosOfMicro.toNat < 1000000 ∧
      RoundsHalfUp (step 12 precision) (value.epochNano * 1000) long.picos ∧
      (precision ≤ 6 →
        epochMicros value precision = .ok long.epochMicros ∧ long.picosOfMicro = 0) ∧
      (∀ nanos, RoundsHalfUp (step 9 (min precision 9)) value.epochNano nanos →
        DateTime.first.epochNano ≤ nanos → nanos ≤ DateTime.last.epochNano →
          ∃ again, dateTimeOfLongTimestamp long precision = .ok again ∧ again.isLeap = false ∧
            again.epochNano = nanos) ∧
      (9 ≤ precision → value.isLeap = false → dateTimeOfLongTimestamp long precision = .ok value)) ∧
    ∀ (long : LongTimestamp) (precision : Nat) (stamp : DateTime),
      dateTimeOfLongTimestamp long precision = .ok stamp ↔ stamp.isLeap = false ∧
        RoundsHalfUp (step 12 (min precision 9)) long.picos (stamp.epochNano * 1000) := by
  refine ⟨?_, fun _ _ _ => dateTimeOfLongTimestamp_eq_ok⟩
  intro value precision
  obtain ⟨long, decoded, placed⟩ := exists_longTimestamp value precision
  refine ⟨long, decoded, placed, ?_, ?_, ?_, ?_⟩
  · rw [picos_of_longTimestamp decoded]
    exact roundsHalfUp_roundToPrecision ..
  · intro short
    exact longTimestamp_short short placed decoded
  · intro nanos rounds early late
    exact dateTimeOfLongTimestamp_rounded decoded rounds early late
  · intro fine plain
    exact dateTimeOfLongTimestamp_self fine plain decoded

/-- The last nanosecond before the epoch. In nanoseconds it comes back, also from picoseconds that pass the
microsecond and end on a half; in milliseconds it is the epoch, in both forms. -/
theorem longTimestamp_nearest_beforeEpoch :
    let value : DateTime := ⟨⟨1969, 12, 31, by decide, by decide, by decide⟩,
      ⟨86399, 999999999, by decide, by decide⟩⟩
    (longTimestamp value 9 = .ok ⟨-1, 999000⟩ ∧ dateTimeOfLongTimestamp ⟨-1, 999000⟩ 9 = .ok value) ∧
      dateTimeOfLongTimestamp ⟨-2, 1998500⟩ 9 = .ok value ∧
      longTimestamp value 3 = .ok ⟨0, 0⟩ ∧ epochMicros value 3 = .ok 0 := by
  intro value
  have nanos : longTimestamp value 9 = .ok ⟨-1, 999000⟩ := longTimestamp_eq_ok (by decide) (by decide)
  have millis : longTimestamp value 3 = .ok ⟨0, 0⟩ := longTimestamp_eq_ok (by decide) (by decide)
  obtain ⟨nearest, read⟩ := longTimestamp_nearest
  obtain ⟨long, fine, -, -, -, -, returns⟩ := nearest value 9
  cases nanos.symm.trans fine
  obtain ⟨long, coarse, -, -, short, -⟩ := nearest value 3
  cases millis.symm.trans coarse
  have tie : RoundsHalfUp (step 12 (min 9 9)) (LongTimestamp.picos ⟨-2, 1998500⟩)
      (value.epochNano * 1000) := ⟨by decide, by decide, by decide⟩
  exact ⟨⟨nanos, returns (by decide) rfl⟩, (read ⟨-2, 1998500⟩ 9 value).mpr ⟨rfl, tie⟩, millis,
    (short (by decide)).1⟩

end TypeBridge.Temporal
