import TypeBridge.Proofs.Machine.Arithmetic
import TypeBridge.Proofs.Temporal.Epoch

/-!
The codec of dates and times step by step in words. Days, seconds and words of the engine are words of 64
bits; what is multiplied or rounded is in words of 128 bits and narrowed after; the parts of a second are
natural words of 32 bits. Each calculation goes through, and its result is that of the codec.
-/
namespace TypeBridge.Machine

open TypeBridge.Temporal (orRange rangeError picosPerDay)

theorem holds_signed32 {value : Int} :
    (signed 32).Holds value ↔ -2147483648 ≤ value ∧ value ≤ 2147483647 := Iff.rfl

theorem holds_signed64 {value : Int} :
    (signed 64).Holds value ↔ -9223372036854775808 ≤ value ∧ value ≤ 9223372036854775807 := Iff.rfl

theorem holds_signed128 {value : Int} : (signed 128).Holds value ↔
    -170141183460469231731687303715884105728 ≤ value ∧
      value ≤ 170141183460469231731687303715884105727 := Iff.rfl

theorem holds_unsigned32 {value : Int} : (unsigned 32).Holds value ↔ 0 ≤ value ∧ value ≤ 4294967295 :=
  Iff.rfl

theorem word?_within? (value : Int) :
    (within? (signed 64) value).map Int64.ofInt = Temporal.word? value := by
  have bound : twoTo 63 = 9223372036854775808 := rfl
  unfold within? Temporal.word?
  split
  next held =>
    rw [holds_signed64] at held
    rw [if_pos (by omega), Option.map_some]
  next wide =>
    rw [holds_signed64] at wide
    rw [if_neg (by omega), Option.map_none]

def roundDivWide (value factor : Int) : Checked Int :=
  if factor = 1 then .ok value
  else if 0 ≤ value then do
    let half ← quotient (signed 128) factor 2
    quotient (signed 128) (← sum (signed 128) value half) factor
  else do
    let next ← sum (signed 128) value 1
    let half ← quotient (signed 128) factor 2
    quotient (signed 128) (← difference (signed 128) next half) factor

def roundDiv (value factor : Int) : Checked Int := do
  narrow (signed 64) (← roundDivWide value factor)

def roundToPrecision (value : Int) (digits precision : Nat) : Checked Int :=
  if digits ≤ precision then .ok value
  else do
    let factor ← power (signed 128) 10 (← difference (unsigned 32) digits precision)
    product (signed 128) (← roundDivWide value factor) factor

/-- A number that leaves two bits of the wide words. -/
def Roomy (value : Int) : Prop :=
  -42535295865117307932921825928971026432 ≤ value ∧ value ≤ 42535295865117307932921825928971026432

theorem roundDivWide_eq_ok {value factor : Int} (roomy : Roomy value) (positive : 0 < factor)
    (small : Roomy factor) : roundDivWide value factor = .ok (Temporal.roundDiv value factor) := by
  obtain ⟨low, high⟩ := roomy
  obtain ⟨-, most⟩ := small
  obtain ⟨leastHalf, greatestHalf⟩ := tdiv_between factor (show 0 < 2 by decide)
  have zero : (signed 128).Holds 0 := by decide
  have half : quotient (signed 128) factor 2 = .ok (factor.tdiv 2) :=
    quotient_eq_ok (holds_signed128.mpr (by omega)) zero (by decide)
  unfold roundDivWide Temporal.roundDiv
  split
  · rfl
  · split
    · refine bind_eq_ok.mpr ⟨_, half, bind_eq_ok.mpr ⟨_, fits_eq_ok ?_, quotient_eq_ok ?_ zero positive⟩⟩
      all_goals
        rw [holds_signed128]
        omega
    · refine bind_eq_ok.mpr ⟨_, fits_eq_ok ?_, bind_eq_ok.mpr ⟨_, half, bind_eq_ok.mpr
        ⟨_, fits_eq_ok ?_, quotient_eq_ok ?_ zero positive⟩⟩⟩
      all_goals
        rw [holds_signed128]
        omega

theorem roundDiv_eq_ok {value factor : Int} (held : (signed 64).Holds value) (positive : 0 < factor)
    (heldFactor : (signed 64).Holds factor) :
    roundDiv value factor = .ok (Temporal.roundDiv value factor) := by
  have zero : (signed 64).Holds 0 := by decide
  obtain ⟨low, high⟩ := Temporal.roundDiv_between value positive
  have narrows := narrow_eq_ok (held.between zero low high)
  rw [holds_signed64] at held heldFactor
  exact bind_eq_ok.mpr ⟨_, roundDivWide_eq_ok ⟨by omega, by omega⟩ positive ⟨by omega, by omega⟩, narrows⟩

theorem roundToPrecision_eq_ok {value : Int} {digits : Nat} (roomy : Roomy value) (few : digits ≤ 15)
    (precision : Nat) :
    roundToPrecision value digits precision = .ok (Temporal.roundToPrecision value digits precision) := by
  have near := Temporal.roundToPrecision_near value digits precision
  have positive := Temporal.step_pos digits precision
  have finest := Temporal.step_le digits precision
  have coarsest : tenTo digits ≤ 1000000000000000 := tenTo_le few
  obtain ⟨low, high⟩ := roomy
  unfold roundToPrecision
  split
  next fine => rw [Temporal.roundToPrecision_fine fine]
  next coarse =>
    have digitsLeft : ((digits : Int) - precision).toNat = digits - precision := by omega
    have ten : ((10 : Int) ^ (digits - precision)) = Temporal.step digits precision :=
      (Int.natCast_pow 10 (digits - precision)).symm
    have rounded : Temporal.roundToPrecision value digits precision =
        Temporal.roundDiv value (Temporal.step digits precision) * Temporal.step digits precision :=
      if_neg coarse
    have factor : power (signed 128) 10 (digits - precision) = .ok (Temporal.step digits precision) := by
      rw [← ten, ← digitsLeft]
      apply power_eq_ok
      rw [digitsLeft, ten, holds_signed128]
      omega
    refine bind_eq_ok.mpr ⟨_, fits_eq_ok ?_, bind_eq_ok.mpr ⟨_, factor, bind_eq_ok.mpr
      ⟨_, roundDivWide_eq_ok ⟨low, high⟩ positive ⟨by omega, by omega⟩, ?_⟩⟩⟩
    · rw [holds_unsigned32]
      omega
    · rw [rounded] at near ⊢
      apply fits_eq_ok
      rw [holds_signed128]
      omega

/-- Up to twelve digits, a rounding goes through, and moves a number by less than a million million. -/
theorem roundToPrecision_within {value : Int} {digits : Nat} (roomy : Roomy value) (few : digits ≤ 12)
    (precision : Nat) :
    roundToPrecision value digits precision = .ok (Temporal.roundToPrecision value digits precision) ∧
      value - 1000000000000 ≤ Temporal.roundToPrecision value digits precision ∧
      Temporal.roundToPrecision value digits precision ≤ value + 1000000000000 := by
  have near := Temporal.roundToPrecision_near value digits precision
  have finest := Temporal.step_le digits precision
  have coarsest : tenTo digits ≤ 1000000000000 := tenTo_le few
  exact ⟨roundToPrecision_eq_ok roomy (Nat.le_trans few (by decide)) precision, by omega, by omega⟩

def daysOfEra (date : Date) : Int := date.epochDay + Date.epochOffset + 1

def epochDay (date : Date) : Checked Int := difference (signed 64) (daysOfEra date) 719163

def dateOfEpochDay (day : Int64) : Except Error Date :=
  orRange (.epochDay day.toInt)
    ((within? (signed 64) (day.toInt + 719163)).bind fun counted =>
      (within? (signed 32) counted).bind fun narrowed =>
        Date.ofEpochDay? (narrowed - Date.epochOffset - 1))

theorem epochDay_eq_ok (date : Date) : epochDay date = .ok date.epochDay := by
  have offset : Date.epochOffset = 719162 := rfl
  have exact : daysOfEra date - 719163 = date.epochDay := by
    rw [daysOfEra]
    omega
  have few := Temporal.narrow_of_inCalendar date.inCalendar_epochDay
  have bound : twoTo 31 = 2147483648 := rfl
  rw [epochDay, difference, exact, fits_eq_ok]
  rw [holds_signed64]
  omega

/-- A day that does not fit the narrow word lies outside the calendar. -/
theorem dateOfEpochDay_eq (day : Int64) : dateOfEpochDay day = Temporal.dateOfEpochDay day.toInt := by
  have offset : Date.epochOffset = 719162 := rfl
  have exact : day.toInt + 719163 - Date.epochOffset - 1 = day.toInt := by omega
  rw [dateOfEpochDay, Temporal.dateOfEpochDay]
  apply congrArg (orRange (.epochDay day.toInt))
  by_cases inside : Date.InCalendar day.toInt
  · have few := Temporal.narrow_of_inCalendar inside
    have bound : twoTo 31 = 2147483648 := rfl
    have long : (signed 64).Holds (day.toInt + 719163) := holds_signed64.mpr (by omega)
    have short : (signed 32).Holds (day.toInt + 719163) := holds_signed32.mpr (by omega)
    rw [within?, if_pos long, Option.bind_some, within?, if_pos short, Option.bind_some, exact]
  · have missing : Date.ofEpochDay? (day.toInt + 719163 - Date.epochOffset - 1) = none := by
      rw [exact, Date.ofEpochDay?_eq_none.mpr inside]
    rw [Date.ofEpochDay?_eq_none.mpr inside]
    refine Option.bind_eq_none_iff.mpr fun counted long => ?_
    refine Option.bind_eq_none_iff.mpr fun narrowed short => ?_
    rw [eq_of_within? short, eq_of_within? long, missing]

def picosOfDay (time : TimeOfDay) (precision : Nat) : Checked Int := do
  let seconds ← product (signed 128) time.second 1000000000
  let nanos ← sum (signed 128) seconds time.nanosecond
  let picos ← product (signed 128) nanos 1000
  let rounded ← narrow (signed 64) (← roundToPrecision picos 12 precision)
  return if rounded = picosPerDay then 0 else rounded

def timeOfPicos (picos : Int64) (precision : Nat) : Checked (Except Error TimeOfDay) :=
  if 0 ≤ picos.toInt ∧ picos.toInt < picosPerDay then do
    let rounded ← narrow (signed 64) (← roundToPrecision picos.toInt 12 precision)
    let nanos ← roundDiv (if rounded = picosPerDay then 0 else rounded) 1000
    let seconds ← narrow (unsigned 32) (← quotient (signed 64) nanos 1000000000)
    let fraction ← narrow (unsigned 32) (← remainder (signed 64) nanos 1000000000)
    return orRange (.timeOfDay picos.toInt) (TimeOfDay.make? seconds.toNat fraction.toNat)
  else return rangeError (.timeOfDay picos.toInt)

theorem picosOfDay_eq_ok (time : TimeOfDay) (precision : Nat) :
    picosOfDay time precision = .ok (Temporal.picosOfDay time precision) := by
  have seconds := time.second_lt
  have nanoseconds := time.nanosecond_lt
  have counted : ((time.second : Int) * 1000000000 + time.nanosecond) = time.nanoOfDay := by
    rw [TimeOfDay.nanoOfDay]
    omega
  have roomy : Roomy ((time.nanoOfDay : Int) * 1000) := ⟨by omega, by omega⟩
  obtain ⟨rounds, above, below⟩ := roundToPrecision_within roomy (Nat.le_refl 12) precision
  refine bind_eq_ok.mpr ⟨_, fits_eq_ok ?_, bind_eq_ok.mpr ⟨_, fits_eq_ok ?_, bind_eq_ok.mpr
    ⟨_, fits_eq_ok ?_, ?_⟩⟩⟩
  · rw [holds_signed128]
    omega
  · rw [holds_signed128]
    omega
  · rw [holds_signed128]
    omega
  · rw [counted]
    refine bind_eq_ok.mpr ⟨_, rounds, bind_eq_ok.mpr ⟨_, narrow_eq_ok ?_, rfl⟩⟩
    rw [holds_signed64]
    omega

theorem nanos_eq_ok {part : Int} (natural : 0 ≤ part) (inDay : part < picosPerDay) :
    roundDiv part 1000 = .ok (Temporal.roundDiv part 1000) ∧
      0 ≤ Temporal.roundDiv part 1000 ∧ Temporal.roundDiv part 1000 ≤ 86400000000000 := by
  have day : picosPerDay = 86400000000000000 := rfl
  have divided : Temporal.roundDiv part 1000 = (part + 500) / 1000 :=
    Temporal.roundDiv_even (show (0 : Int) < 500 by decide) part
  exact ⟨roundDiv_eq_ok (holds_signed64.mpr (by omega)) (by decide) (by decide), by omega, by omega⟩

theorem timeOfPicos_eq_ok (picos : Int64) (precision : Nat) :
    timeOfPicos picos precision = .ok (Temporal.timeOfPicos picos.toInt precision) := by
  unfold timeOfPicos Temporal.timeOfPicos
  dsimp only
  split
  next within =>
    have day : picosPerDay = 86400000000000000 := rfl
    obtain ⟨natural, inDay⟩ :=
      Temporal.roundToPrecision_inDay within.1 (Int.le_of_lt within.2) precision
    have rounds := @roundToPrecision_eq_ok picos.toInt 12 ⟨by omega, by omega⟩ (by decide) precision
    have wrapped := Temporal.wrap_eq_emod natural inDay
    obtain ⟨divides, least, most⟩ := @nanos_eq_ok
      (Temporal.roundToPrecision picos.toInt 12 precision % picosPerDay)
      (Int.emod_nonneg _ (by decide)) (Int.emod_lt_of_pos _ (by decide))
    rw [← wrapped] at divides least most
    -- The nanoseconds lie within the day, so that the parts of the second have room in the narrow words.
    have zero : (signed 64).Holds 0 := by decide
    have held : (signed 64).Holds _ := ⟨Int.le_trans (by decide) least, Int.le_trans most (by decide)⟩
    have whole := @Int.tdiv_eq_ediv_of_nonneg _ 1000000000 least
    have rest := @Int.tmod_eq_emod_of_nonneg _ 1000000000 least
    refine bind_eq_ok.mpr ⟨_, rounds, bind_eq_ok.mpr ⟨_, narrow_eq_ok ?_, bind_eq_ok.mpr
      ⟨_, divides, bind_eq_ok.mpr ⟨_, quotient_eq_ok held zero (by decide), bind_eq_ok.mpr
        ⟨_, narrow_eq_ok ?_, bind_eq_ok.mpr ⟨_, remainder_eq_ok held zero (by decide), bind_eq_ok.mpr
          ⟨_, narrow_eq_ok ?_, ?_⟩⟩⟩⟩⟩⟩⟩
    · rw [holds_signed64]
      omega
    · rw [whole, holds_unsigned32]
      omega
    · rw [rest, holds_unsigned32]
      omega
    · rw [whole, rest]
      rfl
  next => rfl

def epochNano (value : DateTime) : Checked Int := do
  let seconds ← product (signed 128) value.epochSecond 1000000000
  sum (signed 128) seconds value.time.nanosecond

def dateTimeOfEpochNano (nanos : Int) : Checked (Except Error DateTime) := do
  let seconds ← floorQuotient (signed 128) nanos 1000000000
  let fraction ← narrow (unsigned 32) (← floorRemainder (signed 128) nanos 1000000000)
  return orRange (.epochNano nanos) ((within? (signed 64) seconds).bind fun seconds =>
    DateTime.ofEpochSecond? seconds fraction.toNat)

def epochMicros (value : DateTime) (precision : Nat) : Checked (Except Error Int64) := do
  let rounded ← roundToPrecision (← epochNano value) 9 precision
  let micros ← quotient (signed 128) rounded 1000
  return orRange (.timestamp value) ((within? (signed 64) micros).map Int64.ofInt)

def dateTimeOfEpochMicros (micros : Int64) : Checked (Except Error DateTime) := do
  dateTimeOfEpochNano (← product (signed 128) micros.toInt 1000)

def longTimestamp (value : DateTime) (precision : Nat) : Checked (Except Error LongTimestamp) := do
  let picos ← product (signed 128) (← epochNano value) 1000
  let rounded ← roundToPrecision picos 12 precision
  let micros ← floorQuotient (signed 128) rounded 1000000
  let picosOfMicro ← narrow (unsigned 32) (← floorRemainder (signed 128) rounded 1000000)
  return do
    let micros ← orRange (.timestamp value) ((within? (signed 64) micros).map Int64.ofInt)
    return ⟨micros, UInt32.ofNat picosOfMicro.toNat⟩

def dateTimeOfLongTimestamp (value : LongTimestamp) (precision : Nat) :
    Checked (Except Error DateTime) := do
  let micros ← product (signed 128) value.epochMicros.toInt 1000000
  let picos ← sum (signed 128) micros value.picosOfMicro.toNat
  let rounded ← roundToPrecision picos 12 (min precision 9)
  dateTimeOfEpochNano (← floorQuotient (signed 128) rounded 1000)

def wholeSecondDateTime (micros : Int64) : Checked (Except Error DateTime) := do
  let microsOfSecond ← floorRemainder (signed 64) micros.toInt 1000000
  if microsOfSecond = 0 then dateTimeOfEpochMicros micros
  else return .error (.metadataContract (.fractionalSecond micros.toInt))

theorem epochNano_eq_ok (value : DateTime) : epochNano value = .ok value.epochNano := by
  have seconds := value.epochSecond_bounds
  have nanoseconds := value.time.nanosecond_lt
  refine bind_eq_ok.mpr ⟨_, fits_eq_ok ?_, fits_eq_ok ?_⟩
  all_goals
    rw [holds_signed128]
    omega

/-- Seconds that do not fit the word lie outside the calendar. -/
theorem dateTimeOfEpochNano_eq_ok {nanos : Int} (held : (signed 128).Holds nanos) :
    dateTimeOfEpochNano nanos = .ok (Temporal.dateTimeOfEpochNano nanos) := by
  have zero : (signed 128).Holds 0 := by decide
  have placed : (within? (signed 64) (nanos / 1000000000)).bind
      (fun seconds => DateTime.ofEpochSecond? seconds (nanos % 1000000000).toNat) =
        DateTime.ofEpochNano? nanos := by
    unfold within?
    split
    next => rw [Option.bind_some, DateTime.ofEpochNano?]
    next wide =>
      refine (Option.eq_none_iff_forall_ne_some.mpr fun value found => ?_).symm
      have seconds := value.epochSecond_bounds
      rw [(DateTime.ofEpochSecond?_eq_some found).1] at seconds
      rw [holds_signed64] at wide
      omega
  refine bind_eq_ok.mpr ⟨_, floorQuotient_eq_ok held zero (by decide), bind_eq_ok.mpr
    ⟨_, floorRemainder_eq_ok held zero (by decide), bind_eq_ok.mpr ⟨_, narrow_eq_ok ?_, ?_⟩⟩⟩
  · rw [holds_unsigned32]
    omega
  · rw [Temporal.dateTimeOfEpochNano, ← placed]
    rfl

theorem epochMicros_eq_ok (value : DateTime) (precision : Nat) :
    epochMicros value precision = .ok (Temporal.epochMicros value precision) := by
  have bounds := value.epochNano_bounds
  obtain ⟨rounds, above, below⟩ :=
    @roundToPrecision_within value.epochNano 9 ⟨by omega, by omega⟩ (by decide) precision
  refine bind_eq_ok.mpr ⟨_, epochNano_eq_ok value, bind_eq_ok.mpr ⟨_, rounds, bind_eq_ok.mpr
    ⟨_, quotient_eq_ok ?_ (by decide) (by decide), ?_⟩⟩⟩
  · rw [holds_signed128]
    omega
  · rw [word?_within?]
    rfl

theorem dateTimeOfEpochMicros_eq_ok (micros : Int64) :
    dateTimeOfEpochMicros micros = .ok (Temporal.dateTimeOfEpochMicros micros.toInt) := by
  have low := micros.le_toInt
  have high := micros.toInt_lt
  have held : (signed 128).Holds (micros.toInt * 1000) := holds_signed128.mpr (by omega)
  exact bind_eq_ok.mpr ⟨_, fits_eq_ok held, dateTimeOfEpochNano_eq_ok held⟩

theorem longTimestamp_eq_ok (value : DateTime) (precision : Nat) :
    longTimestamp value precision = .ok (Temporal.longTimestamp value precision) := by
  have bounds := value.epochNano_bounds
  have zero : (signed 128).Holds 0 := by decide
  obtain ⟨rounds, above, below⟩ :=
    @roundToPrecision_within (value.epochNano * 1000) 12 ⟨by omega, by omega⟩ (by decide) precision
  have held : (signed 128).Holds (Temporal.roundToPrecision (value.epochNano * 1000) 12 precision) :=
    holds_signed128.mpr (by omega)
  refine bind_eq_ok.mpr ⟨_, epochNano_eq_ok value, bind_eq_ok.mpr ⟨_, fits_eq_ok ?_, bind_eq_ok.mpr
    ⟨_, rounds, bind_eq_ok.mpr ⟨_, floorQuotient_eq_ok held zero (by decide), bind_eq_ok.mpr
      ⟨_, floorRemainder_eq_ok held zero (by decide), bind_eq_ok.mpr ⟨_, narrow_eq_ok ?_, ?_⟩⟩⟩⟩⟩⟩
  · rw [holds_signed128]
    omega
  · rw [holds_unsigned32]
    omega
  · rw [word?_within?]
    rfl

theorem dateTimeOfLongTimestamp_eq_ok (value : LongTimestamp) (precision : Nat) :
    dateTimeOfLongTimestamp value precision =
      .ok (Temporal.dateTimeOfLongTimestamp value precision) := by
  have low := value.epochMicros.le_toInt
  have high := value.epochMicros.toInt_lt
  have rest := value.picosOfMicro.toNat_lt
  have whole : value.picos = value.epochMicros.toInt * 1000000 + value.picosOfMicro.toNat := rfl
  obtain ⟨rounds, above, below⟩ :=
    @roundToPrecision_within value.picos 12 ⟨by omega, by omega⟩ (by decide) (min precision 9)
  refine bind_eq_ok.mpr ⟨_, fits_eq_ok ?_, bind_eq_ok.mpr ⟨_, fits_eq_ok ?_, bind_eq_ok.mpr
    ⟨_, rounds, bind_eq_ok.mpr ⟨_, floorQuotient_eq_ok ?_ (by decide) (by decide),
      dateTimeOfEpochNano_eq_ok ?_⟩⟩⟩⟩
  all_goals
    rw [holds_signed128]
    omega

theorem wholeSecondDateTime_eq_ok (micros : Int64) :
    wholeSecondDateTime micros = .ok (Temporal.wholeSecondDateTime micros.toInt) := by
  have held : (signed 64).Holds micros.toInt := by
    have low := micros.le_toInt
    have high := micros.toInt_lt
    rw [holds_signed64]
    omega
  refine bind_eq_ok.mpr ⟨_, floorRemainder_eq_ok held (by decide) (by decide), ?_⟩
  unfold Temporal.wholeSecondDateTime
  split
  next => exact dateTimeOfEpochMicros_eq_ok micros
  next => rfl

/-- The milliseconds are shifted up by multiplying, when there is room; the key is masked and put beside
them. -/
def pack (millis : Int) (zoneKey : Int16) : Except Error Int64 :=
  orRange (.epochMilli millis) ((within? (signed 64) (millis * 4096)).map fun shifted =>
    Int64.ofInt shifted ||| (Int64.ofInt zoneKey.toInt &&& 4095))

/-- A shift that keeps the sign. -/
def unpackMillis (packed : Int64) : Int64 := packed >>> 12

def unpackZoneKey (packed : Int64) : Int16 := (packed &&& 4095).toInt16

def shortZonedTimestamp (value : OffsetDateTime) : Except Error Int64 :=
  pack (Temporal.epochMilli value) Temporal.utcKey

def longZonedTimestamp (value : OffsetDateTime) : Checked LongZonedTimestamp := do
  let nanos : Int := value.utc.time.nanosecond
  let seconds ← product (signed 64) value.utc.epochSecond 1000
  let millis ← sum (signed 64) seconds (← quotient (signed 64) nanos 1000000)
  let rest ← remainder (signed 64) nanos 1000000
  let picos ← narrow (unsigned 32) (← product (signed 64) rest 1000)
  return ⟨Int64.ofInt millis, UInt32.ofNat picos.toNat, Temporal.utcKey⟩

def instantOfLong (value : LongZonedTimestamp) : Checked (Except Error OffsetDateTime) := do
  let millis := value.epochMillis.toInt
  let seconds ← floorQuotient (signed 64) millis 1000
  let whole ← product (signed 64) (← floorRemainder (signed 64) millis 1000) 1000000
  let rest ← quotient (signed 64) value.picosOfMilli.toNat 1000
  let nanos ← narrow (unsigned 32) (← sum (signed 64) whole rest)
  return orRange (.epochMilli millis) ((DateTime.ofEpochSecond? seconds nanos.toNat).map .atUtc)

/-- The bits of a multiple of 4096 and those of a masked key do not meet, so that their union is the sum. -/
theorem or_masked (millis key : Int) :
    Int64.ofInt (millis * 4096) ||| (Int64.ofInt key &&& 4095) =
      Int64.ofInt (millis * 4096 + key % 4096) := by
  have shifted : (millis * 4096 % 18446744073709551616).toNat =
      4096 * (millis % 4503599627370496).toNat := by omega
  have masked : (key % 18446744073709551616).toNat &&& 4095 = (key % 4096).toNat := by
    have low := Nat.and_two_pow_sub_one_eq_mod (key % 18446744073709551616).toNat 12
    have parts : (key % 18446744073709551616).toNat % 4096 = (key % 4096).toNat := by omega
    exact low.trans parts
  have small : (key % 4096).toNat < twoTo 12 := by
    have bound : twoTo 12 = 4096 := rfl
    omega
  apply Int64.toBitVec_inj.mp
  apply BitVec.eq_of_toNat_eq
  calc (Int64.ofInt (millis * 4096) ||| (Int64.ofInt key &&& 4095)).toBitVec.toNat
    _ = (millis * 4096 % 18446744073709551616).toNat |||
          ((key % 18446744073709551616).toNat &&& 4095) := by
        simp only [Int64.toBitVec_or, Int64.toBitVec_and, BitVec.toNat_or, BitVec.toNat_and,
          Int64.toBitVec_ofInt, BitVec.toNat_ofInt]
        rfl
    _ = 4096 * (millis % 4503599627370496).toNat ||| (key % 4096).toNat := by rw [shifted, masked]
    _ = 4096 * (millis % 4503599627370496).toNat + (key % 4096).toNat :=
        (Nat.two_pow_add_eq_or_of_lt small _).symm
    _ = ((millis * 4096 + key % 4096) % 18446744073709551616).toNat := by omega
    _ = (Int64.ofInt (millis * 4096 + key % 4096)).toBitVec.toNat := by
        rw [Int64.toBitVec_ofInt, BitVec.toNat_ofInt]
        rfl

theorem pack_eq (millis : Int) (zoneKey : Int16) : pack millis zoneKey = Temporal.pack millis zoneKey := by
  rw [pack, Temporal.pack, ← word?_within?]
  apply congrArg (orRange (.epochMilli millis))
  unfold within?
  split
  next => exact congrArg some (or_masked millis zoneKey.toInt)
  next => rfl

theorem toInt_unpackMillis (packed : Int64) :
    (unpackMillis packed).toInt = Temporal.unpackMillis packed := by
  change (packed.toBitVec.sshiftRight' ((12 : Int64).toBitVec.smod 64)).toInt = packed.toInt / 4096
  rw [BitVec.toInt_sshiftRight', Int.shiftRight_eq_div_pow]
  rfl

theorem unpackZoneKey_eq (packed : Int64) : unpackZoneKey packed = Temporal.unpackZoneKey packed := by
  have alone := or_masked 0 packed.toInt
  rw [Int.zero_mul, Int.zero_add, Int64.ofInt_toInt] at alone
  have masked : packed &&& 4095 = Int64.ofInt (packed.toInt % 4096) := Int64.zero_or.symm.trans alone
  rw [unpackZoneKey, masked, Int64.toInt16_ofInt, Temporal.unpackZoneKey]

theorem longZonedTimestamp_eq_ok (value : OffsetDateTime) :
    longZonedTimestamp value = .ok (Temporal.longZonedTimestamp value) := by
  have seconds := value.utc.epochSecond_bounds
  have nanoseconds := value.utc.time.nanosecond_lt
  have zero : (signed 64).Holds 0 := by decide
  have held : (signed 64).Holds (value.utc.time.nanosecond : Int) := holds_signed64.mpr (by omega)
  have whole : (value.utc.time.nanosecond : Int).tdiv 1000000 = value.utc.time.nanosecond / 1000000 :=
    Int.tdiv_eq_ediv_of_nonneg (by omega)
  have rest : (value.utc.time.nanosecond : Int).tmod 1000000 =
      (value.utc.time.nanosecond % 1000000 : Nat) := Int.tmod_eq_emod_of_nonneg (by omega)
  refine bind_eq_ok.mpr ⟨_, fits_eq_ok ?_, bind_eq_ok.mpr ⟨_, quotient_eq_ok held zero (by decide),
    bind_eq_ok.mpr ⟨_, fits_eq_ok ?_, bind_eq_ok.mpr ⟨_, remainder_eq_ok held zero (by decide),
      bind_eq_ok.mpr ⟨_, fits_eq_ok ?_, bind_eq_ok.mpr ⟨_, narrow_eq_ok ?_, ?_⟩⟩⟩⟩⟩⟩
  · rw [holds_signed64]
    omega
  · rw [whole, holds_signed64]
    omega
  · rw [rest, holds_signed64]
    omega
  · rw [rest, holds_unsigned32]
    omega
  · rw [whole, rest]
    rfl

theorem instantOfLong_eq_ok (value : LongZonedTimestamp) :
    instantOfLong value = .ok (Temporal.instantOfLong value) := by
  have low := value.epochMillis.le_toInt
  have high := value.epochMillis.toInt_lt
  have few := value.picosOfMilli.toNat_lt
  have zero : (signed 64).Holds 0 := by decide
  have held : (signed 64).Holds value.epochMillis.toInt := holds_signed64.mpr (by omega)
  have rest : (value.picosOfMilli.toNat : Int).tdiv 1000 = value.picosOfMilli.toNat / 1000 :=
    Int.tdiv_eq_ediv_of_nonneg (by omega)
  have nanos : (value.epochMillis.toInt % 1000 * 1000000 + value.picosOfMilli.toNat / 1000).toNat =
      (value.epochMillis.toInt % 1000).toNat * 1000000 + value.picosOfMilli.toNat / 1000 := by omega
  refine bind_eq_ok.mpr ⟨_, floorQuotient_eq_ok held zero (by decide), bind_eq_ok.mpr
    ⟨_, floorRemainder_eq_ok held zero (by decide), bind_eq_ok.mpr ⟨_, fits_eq_ok ?_, bind_eq_ok.mpr
      ⟨_, quotient_eq_ok (holds_signed64.mpr (by omega)) zero (by decide), bind_eq_ok.mpr
        ⟨_, fits_eq_ok ?_, bind_eq_ok.mpr ⟨_, narrow_eq_ok ?_, ?_⟩⟩⟩⟩⟩⟩
  · rw [holds_signed64]
    omega
  · rw [rest, holds_signed64]
    omega
  · rw [rest, holds_unsigned32]
    omega
  · rw [rest, nanos]
    rfl

end TypeBridge.Machine
