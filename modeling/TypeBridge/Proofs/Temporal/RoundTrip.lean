import TypeBridge.Proofs.Calendar.Instants
import TypeBridge.Proofs.Outcome
import TypeBridge.Proofs.Temporal.Grid
import TypeBridge.Temporal.Codec

/-!
Words of the engine given back to a driver. A word that was decoded stands on the grid of its precision;
the date-time or time of day that is made of it decodes to the same word.
-/
namespace TypeBridge.Temporal

theorem orRange_eq_ok {α : Type} {fault : RangeFault} {found : Option α} {value : α} :
    orRange fault found = .ok value ↔ found = some value := by
  cases found with
  | none =>
    constructor <;> intro h <;> cases h
  | some =>
    constructor <;> intro h <;> cases h <;> rfl

theorem step_dvd_picosOfDay (time : TimeOfDay) (precision : Nat) :
    step 12 precision ∣ picosOfDay time precision := by
  simp only [picosOfDay]
  split
  next => exact Int.dvd_zero _
  next => exact step_dvd_roundToPrecision ..

theorem step_dvd_picosPerDay (precision : Nat) : step 12 precision ∣ picosPerDay :=
  Int.dvd_trans (step_dvd (Nat.zero_le precision)) ⟨86400, rfl⟩

/-- Rounding does not leave the day, its end included. -/
theorem roundToPrecision_inDay {picos : Int} (natural : 0 ≤ picos) (within : picos ≤ picosPerDay)
    (precision : Nat) : 0 ≤ roundToPrecision picos 12 precision ∧
      roundToPrecision picos 12 precision ≤ picosPerDay :=
  ⟨le_roundToPrecision (Int.dvd_zero _) natural,
    roundToPrecision_le (step_dvd_picosPerDay precision) within⟩

/-- Within a day, to put its end to its start is to count modulo the day. -/
theorem wrap_eq_emod {picos : Int} (natural : 0 ≤ picos) (within : picos ≤ picosPerDay) :
    (if picos = picosPerDay then 0 else picos) = picos % picosPerDay := by
  split
  next ends => rw [ends, Int.emod_self]
  next before => exact (Int.emod_eq_of_lt natural (by omega)).symm

theorem nanoOfDay_lt {time : TimeOfDay} (plain : time.isLeap = false) :
    (time.nanoOfDay : Int) * 1000 < picosPerDay := by
  have seconds := time.second_lt
  rw [TimeOfDay.isLeap_eq_false] at plain
  simp only [TimeOfDay.nanoOfDay, picosPerDay]
  omega

/-- A leap second apart, a time of day decodes to its picoseconds rounded, modulo the day. -/
theorem picosOfDay_eq {time : TimeOfDay} (plain : time.isLeap = false) (precision : Nat) :
    picosOfDay time precision =
      roundToPrecision ((time.nanoOfDay : Int) * 1000) 12 precision % picosPerDay := by
  obtain ⟨natural, within⟩ :=
    roundToPrecision_inDay (by omega) (Int.le_of_lt (nanoOfDay_lt plain)) precision
  exact wrap_eq_emod natural within

theorem picosOfDay_spec {time : TimeOfDay} (plain : time.isLeap = false) (precision : Nat) :
    (0 ≤ picosOfDay time precision ∧ picosOfDay time precision < picosPerDay) ∧
      step 12 precision ∣ picosOfDay time precision := by
  refine ⟨?_, step_dvd_picosOfDay time precision⟩
  rw [picosOfDay_eq plain]
  exact ⟨Int.emod_nonneg _ (by decide), Int.emod_lt_of_pos _ (by decide)⟩

theorem picosOfDay_of_dvd {time : TimeOfDay} {picos : Int} {precision : Nat}
    (plain : time.isLeap = false) (counted : (time.nanoOfDay : Int) * 1000 = picos)
    (onGrid : step 12 precision ∣ picos) : picosOfDay time precision = picos := by
  have inDay := nanoOfDay_lt plain
  rw [picosOfDay_eq plain, counted, roundToPrecision_of_dvd onGrid]
  exact Int.emod_eq_of_lt (by omega) (by omega)

theorem toInt_picosOfDay (time : TimeOfDay) (precision : Nat) :
    (Int64.ofInt (picosOfDay time precision)).toInt = picosOfDay time precision := by
  have seconds := time.second_lt
  have nanoseconds := time.nanosecond_lt
  have positive := step_pos 12 precision
  have most : step 12 precision ≤ 1000000000000 := step_le 12 precision
  have near := roundToPrecision_near ((time.nanoOfDay : Int) * 1000) 12 precision
  have counted : time.nanoOfDay = time.second * 1000000000 + time.nanosecond := rfl
  apply Int64.toInt_ofInt_of_le
  all_goals
    simp only [picosOfDay]
    split <;> omega

theorem wrapped_nanos {picos : Int} {precision : Nat} (fine : precision ≤ 9) :
    ∃ nanos : Nat, nanos < 86400 * 1000000000 ∧
      roundToPrecision picos 12 precision % picosPerDay = nanos * 1000 := by
  obtain ⟨rounded, thousand⟩ :=
    Int.dvd_trans (step_dvd fine) (step_dvd_roundToPrecision picos 12 precision)
  have unit : step 12 9 = 1000 := rfl
  refine ⟨(rounded % 86400000000000).toNat, by omega, ?_⟩
  rw [thousand, unit, picosPerDay]
  omega

/-- A number of picoseconds is taken within the day only, and as the time of day that counts it rounded,
modulo the day. -/
theorem timeOfPicos_eq_ok {picos : Int} {precision : Nat} (fine : precision ≤ 9) {time : TimeOfDay} :
    timeOfPicos picos precision = .ok time ↔ (0 ≤ picos ∧ picos < picosPerDay) ∧
      time.isLeap = false ∧
        (time.nanoOfDay : Int) * 1000 = roundToPrecision picos 12 precision % picosPerDay := by
  by_cases within : 0 ≤ picos ∧ picos < picosPerDay
  · obtain ⟨natural, inDay⟩ := roundToPrecision_inDay within.1 (Int.le_of_lt within.2) precision
    obtain ⟨nanos, bound, wrapped⟩ := @wrapped_nanos picos precision fine
    have divided : roundDiv (nanos * 1000 : Int) 1000 = nanos :=
      roundDiv_mul (show (0 : Int) < 500 by decide) nanos
    have seconds : ((nanos : Int) / 1000000000).toNat = nanos / 1000000000 := by omega
    have fraction : ((nanos : Int) % 1000000000).toNat = nanos % 1000000000 := by omega
    rw [timeOfPicos, if_pos within]
    simp only [wrap_eq_emod natural inDay, wrapped, divided, seconds, fraction, orRange_eq_ok,
      TimeOfDay.make?_nanoOfDay bound, within, and_self, true_and]
    exact and_congr_right fun _ => by omega
  · rw [timeOfPicos, if_neg within]
    exact ⟨nofun, fun taken => absurd taken.1 within⟩

theorem exists_timeOfPicos {picos : Int} {precision : Nat} (fine : precision ≤ 9) :
    (∃ time, timeOfPicos picos precision = .ok time) ↔ 0 ≤ picos ∧ picos < picosPerDay := by
  constructor
  · rintro ⟨time, found⟩
    exact ((timeOfPicos_eq_ok fine).mp found).1
  · intro within
    obtain ⟨nanos, bound, wrapped⟩ := @wrapped_nanos picos precision fine
    obtain ⟨time, plain, counted⟩ := TimeOfDay.exists_nanoOfDay bound
    exact ⟨time, (timeOfPicos_eq_ok fine).mpr ⟨within, plain, by rw [counted, wrapped]⟩⟩

theorem timeOfPicos_spec {picos : Int} {precision : Nat} (fine : precision ≤ 9)
    (within : 0 ≤ picos ∧ picos < picosPerDay) (onGrid : step 12 precision ∣ picos) :
    ∃ time, timeOfPicos picos precision = .ok time ∧
      ∀ finer, precision ≤ finer → picosOfDay time finer = picos := by
  obtain ⟨time, found⟩ := (exists_timeOfPicos fine).mpr within
  obtain ⟨-, plain, counted⟩ := (timeOfPicos_eq_ok fine).mp found
  rw [roundToPrecision_of_dvd onGrid, Int.emod_eq_of_lt within.1 within.2] at counted
  refine ⟨time, found, ?_⟩
  intro finer more
  exact picosOfDay_of_dvd plain counted (Int.dvd_trans (step_dvd more) onGrid)

theorem epochMicros_eq_ok {value : DateTime} {precision : Nat} (short : precision ≤ 6)
    {micros : Int64} : epochMicros value precision = .ok micros ↔
      micros.toInt * 1000 = roundToPrecision value.epochNano 9 precision := by
  obtain ⟨whole, thousand⟩ :=
    Int.dvd_trans (step_dvd short) (step_dvd_roundToPrecision value.epochNano 9 precision)
  have unit : step 9 6 = 1000 := rfl
  have exact : (roundToPrecision value.epochNano 9 precision).tdiv 1000 = whole := by
    rw [thousand, unit, Int.mul_tdiv_cancel_left whole (by decide)]
  rw [epochMicros, orRange_eq_ok, exact, word?_eq_some, thousand, unit]
  omega

theorem step_dvd_epochMicros {value : DateTime} {precision : Nat} {micros : Int64}
    (decoded : epochMicros value precision = .ok micros) :
    step 12 precision ∣ micros.toInt * 1000000 := by
  by_cases short : precision ≤ 6
  · have nanos := (epochMicros_eq_ok short).mp decoded
    have onGrid := step_dvd_picos (step_dvd_roundToPrecision value.epochNano 9 precision)
    rw [← nanos, Int.mul_assoc] at onGrid
    exact onGrid
  · have finer : step 12 precision ∣ step 12 6 := step_dvd (by omega)
    exact Int.dvd_trans finer (Int.dvd_mul_left ..)

/-- A short timestamp that was decoded is written as a date-time that decodes to it. -/
theorem dateTimeOfEpochMicros_spec {value : DateTime} {precision : Nat} (short : precision ≤ 6)
    {micros : Int64} (decoded : epochMicros value precision = .ok micros)
    (inside : Date.InCalendar (micros.toInt / 1000000 / 86400)) :
    ∃ again, dateTimeOfEpochMicros micros.toInt = .ok again ∧
      epochMicros again precision = .ok micros := by
  have nanos := (epochMicros_eq_ok short).mp decoded
  have sameSecond : micros.toInt * 1000 / 1000000000 = micros.toInt / 1000000 := by omega
  rw [← sameSecond] at inside
  obtain ⟨again, found⟩ := DateTime.ofEpochNano?_of_inCalendar inside
  refine ⟨again, orRange_eq_ok.mpr found, ?_⟩
  rw [epochMicros_eq_ok short, DateTime.epochNano_ofEpochNano? found]
  symm
  apply roundToPrecision_of_dvd
  rw [nanos]
  exact step_dvd_roundToPrecision ..

theorem epochNano_of_long {long : LongTimestamp} {precision : Nat} {stamp : DateTime}
    (found : DateTime.ofEpochNano? (roundToPrecision long.picos 12 (min precision 9) / 1000) =
      some stamp) :
    stamp.epochNano * 1000 = roundToPrecision long.picos 12 (min precision 9) := by
  have onGrid := step_dvd_roundToPrecision long.picos 12 (min precision 9)
  rw [step_picos (Nat.min_le_right ..)] at onGrid
  obtain ⟨nanos, whole⟩ := Int.dvd_trans (Int.dvd_mul_left _ 1000) onGrid
  rw [DateTime.epochNano_ofEpochNano? found]
  omega

/-- A long timestamp with less than a microsecond past its microseconds comes back from its
picoseconds. -/
theorem longTimestamp_eq_ok {stamp : DateTime} {precision : Nat} {long : LongTimestamp}
    (placed : long.picosOfMicro.toNat < 1000000)
    (exact : roundToPrecision (stamp.epochNano * 1000) 12 precision = long.picos) :
    longTimestamp stamp precision = .ok long := by
  have micros : long.picos / 1000000 = long.epochMicros.toInt := by
    rw [LongTimestamp.picos]
    omega
  have rest : (long.picos % 1000000).toNat = long.picosOfMicro.toNat := by
    rw [LongTimestamp.picos]
    omega
  have word := word?_eq_some.mpr micros.symm
  rw [longTimestamp, exact]
  refine bind_eq_ok.mpr ⟨long.epochMicros, orRange_eq_ok.mpr word, ?_⟩
  rw [rest, UInt32.ofNat_toNat]
  rfl

theorem picos_of_longTimestamp {value : DateTime} {precision : Nat} {long : LongTimestamp}
    (decoded : longTimestamp value precision = .ok long) :
    long.picos = roundToPrecision (value.epochNano * 1000) 12 precision := by
  obtain ⟨micros, counted, decoded⟩ := bind_eq_ok.mp decoded
  cases decoded
  have whole := word?_eq_some.mp (orRange_eq_ok.mp counted)
  simp only [LongTimestamp.picos]
  rw [UInt32.toNat_ofNat_of_lt' (by rw [UInt32.size]; omega)]
  omega

theorem pack_eq_ok {millis : Int} {key : Int16} {packed : Int64} :
    pack millis key = .ok packed ↔ packed.toInt = millis * 4096 + key.toInt % 4096 := by
  have low := packed.le_toInt
  have high := packed.toInt_lt
  have bound : twoTo 63 = 2 ^ 63 := rfl
  rw [pack, orRange_eq_ok, Option.map_eq_some_iff]
  constructor
  · rintro ⟨word, fits, rfl⟩
    obtain ⟨least, greatest⟩ := exists_word?.mp ⟨word, fits⟩
    exact Int64.toInt_ofInt_of_le (by omega) (by omega)
  · intro same
    -- The bits of the key fill up the last multiple of 4096, so that they do not decide on the room.
    obtain ⟨word, fits⟩ := exists_word?.mpr (show _ ≤ millis * 4096 ∧ millis * 4096 < _ by omega)
    exact ⟨word, fits, by rw [← same, Int64.ofInt_toInt]⟩

theorem unpackMillis_of_pack {millis : Int} {key : Int16} {packed : Int64}
    (h : pack millis key = .ok packed) : unpackMillis packed = millis := by
  rw [unpackMillis, pack_eq_ok.mp h]
  omega

theorem exists_pack {millis : Int} {key : Int16} : (∃ packed, pack millis key = .ok packed) ↔
    -(twoTo 51 : Int) ≤ millis ∧ millis < twoTo 51 := by
  have bits : twoTo 63 = twoTo 51 * 4096 := rfl
  simp only [pack, orRange_eq_ok, Option.map_eq_some_iff]
  constructor
  · rintro ⟨_, word, fits, -⟩
    have room := exists_word?.mp ⟨word, fits⟩
    omega
  · intro within
    obtain ⟨word, fits⟩ := exists_word?.mpr (show _ ≤ millis * 4096 ∧ millis * 4096 < _ by omega)
    exact ⟨_, word, fits, rfl⟩

theorem shortZonedTimestamp_eq_ok {value : OffsetDateTime} {packed : Int64} :
    shortZonedTimestamp value = .ok packed ↔ packed.toInt = epochMilli value * 4096 := by
  have noKey : epochMilli value * 4096 + utcKey.toInt % 4096 = epochMilli value * 4096 :=
    Int.add_zero _
  rw [shortZonedTimestamp, pack_eq_ok, noKey]

theorem unpackMillis_of_shortZonedTimestamp {value : OffsetDateTime} {packed : Int64}
    (decoded : shortZonedTimestamp value = .ok packed) : unpackMillis packed = epochMilli value :=
  unpackMillis_of_pack decoded

/-- Where the nanoseconds have no digits past the first `digits`, the milliseconds have none either. -/
theorem step_dvd_epochMilli {value : OffsetDateTime} {digits : Nat}
    (onGrid : step 9 digits ∣ value.utc.epochNano) :
    step 12 digits ∣ epochMilli value * 1000000000 := by
  by_cases few : digits ≤ 3
  · obtain ⟨millis, whole⟩ := Int.dvd_trans (step_dvd few) onGrid
    have unit : step 9 3 = 1000000 := rfl
    have same : epochMilli value * 1000000000 = value.utc.epochNano * 1000 := by
      rw [unit] at whole
      rw [DateTime.epochNano] at whole ⊢
      rw [epochMilli]
      omega
    rw [same]
    exact step_dvd_picos onGrid
  · have finer : step 12 digits ∣ step 12 3 := step_dvd (by omega)
    exact Int.dvd_trans finer (Int.dvd_mul_left ..)

theorem epochMilli_eq (value : OffsetDateTime) : epochMilli value = value.instant / 1000000 := by
  rw [epochMilli, OffsetDateTime.instant, DateTime.epochNano]
  omega

theorem epochMillis_longZonedTimestamp (value : OffsetDateTime) :
    (longZonedTimestamp value).epochMillis.toInt = epochMilli value := by
  have seconds := value.utc.epochSecond_bounds
  have nanoseconds := value.utc.time.nanosecond_lt
  apply Int64.toInt_ofInt_of_le <;> rw [epochMilli] <;> omega

theorem picosOfMilli_longZonedTimestamp (value : OffsetDateTime) :
    (longZonedTimestamp value).picosOfMilli.toNat = value.utc.time.nanosecond % 1000000 * 1000 := by
  apply UInt32.toNat_ofNat_of_lt'
  rw [UInt32.size]
  omega

theorem picos_longZonedTimestamp (value : OffsetDateTime) :
    (longZonedTimestamp value).picos = value.utc.epochNano * 1000 := by
  rw [LongZonedTimestamp.picos, epochMillis_longZonedTimestamp, picosOfMilli_longZonedTimestamp,
    epochMilli, DateTime.epochNano]
  omega

/-- An instant found for milliseconds, with nanoseconds less than one of them. -/
theorem epochMilli_ofEpochSecond? {millis : Int} {nanos : Nat} (part : nanos < 1000000)
    {utc : DateTime} (h : DateTime.ofEpochSecond? (millis / 1000)
      ((millis % 1000).toNat * 1000000 + nanos) = some utc) :
    epochMilli (.atUtc utc) = millis ∧ utc.time.nanosecond % 1000000 = nanos := by
  obtain ⟨seconds, fraction⟩ := DateTime.ofEpochSecond?_eq_some h
  simp only [epochMilli, OffsetDateTime.atUtc, seconds, fraction]
  omega

/-- Every number of milliseconds that the calendar has is given back as their instant. -/
theorem instantOfMillis_of_inCalendar {millis : Int}
    (inside : Date.InCalendar (millis / 1000 / 86400)) :
    ∃ utc, instantOfMillis millis = .ok (.atUtc utc) ∧ utc.isLeap = false ∧
      utc.epochNano = millis * 1000000 := by
  obtain ⟨utc, found⟩ := DateTime.ofEpochSecond?_of_inCalendar inside
    (show (millis % 1000).toNat * 1000000 < 1000000000 by omega)
  obtain ⟨seconds, fraction⟩ := DateTime.ofEpochSecond?_eq_some found
  refine ⟨utc, ?_, ?_, ?_⟩
  · rw [instantOfMillis, orRange_eq_ok, found]
    rfl
  · rw [DateTime.isLeap, TimeOfDay.isLeap_eq_false, fraction]
    omega
  · rw [DateTime.epochNano, seconds, fraction]
    omega

theorem instantOfMillis_spec {value : OffsetDateTime} {packed : Int64}
    (decoded : shortZonedTimestamp value = .ok packed)
    (inside : Date.InCalendar (unpackMillis packed / 1000 / 86400)) :
    ∃ again, instantOfMillis (unpackMillis packed) = .ok again ∧
      shortZonedTimestamp again = .ok packed := by
  have millis := shortZonedTimestamp_eq_ok.mp decoded
  have unpacked := unpackMillis_of_shortZonedTimestamp decoded
  obtain ⟨utc, found, -, nanos⟩ := instantOfMillis_of_inCalendar inside
  have again : epochMilli (.atUtc utc) = unpackMillis packed := by
    rw [epochMilli_eq, OffsetDateTime.instant, OffsetDateTime.atUtc, nanos]
    exact Int.mul_ediv_cancel _ (by decide)
  refine ⟨.atUtc utc, found, ?_⟩
  rw [shortZonedTimestamp_eq_ok, again, unpacked, millis]

theorem instantOfLong_spec {value : OffsetDateTime} {long : LongZonedTimestamp}
    (decoded : longZonedTimestamp value = long)
    (inside : Date.InCalendar (long.epochMillis.toInt / 1000 / 86400)) :
    ∃ again, instantOfLong long = .ok again ∧ longZonedTimestamp again = long := by
  have picos : long.picosOfMilli.toNat = value.utc.time.nanosecond % 1000000 * 1000 :=
    decoded ▸ picosOfMilli_longZonedTimestamp value
  have utcZone : long.zoneKey = utcKey := by
    subst decoded
    rfl
  have nanos : long.picosOfMilli.toNat / 1000 < 1000000 := by omega
  obtain ⟨utc, found⟩ := DateTime.ofEpochSecond?_of_inCalendar inside
    (show (long.epochMillis.toInt % 1000).toNat * 1000000 + long.picosOfMilli.toNat / 1000 <
      1000000000 by omega)
  refine ⟨.atUtc utc, ?_, ?_⟩
  · rw [instantOfLong, orRange_eq_ok, found]
    rfl
  · obtain ⟨same, fraction⟩ := epochMilli_ofEpochSecond? nanos found
    have digits : utc.time.nanosecond % 1000000 * 1000 = long.picosOfMilli.toNat := by omega
    rw [longZonedTimestamp, same, ← utcZone]
    simp only [OffsetDateTime.atUtc, digits, Int64.ofInt_toInt, UInt32.ofNat_toNat]

end TypeBridge.Temporal
