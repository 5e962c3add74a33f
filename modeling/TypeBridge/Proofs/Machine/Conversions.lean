import TypeBridge.Column.WriteStrategy
import TypeBridge.Proofs.Decimal.Fit
import TypeBridge.Proofs.Machine.Codec

/-!
Decoding and encoding in words. Every calculation that a strategy makes on a value goes through, whatever
the value, its precision and its scale; what lies out of range is refused before or after a calculation,
and never in one.
-/
namespace TypeBridge.Machine

/-- A whole number as a decimal. Decimals take no number past their coefficient. -/
def wholeDecimal (value : Int) : Checked Decimal :=
  match Decimal.make? (decide (value < 0)) value.natAbs 0 with
  | some decimal => .ok decimal
  | none => .error (.outsideDomain value)

/-- The digits before the point are compared with a power of ten, unless there is room for all. -/
def fitDecimal (value : Decimal) (precision scale : Nat) (rounding : Option RoundingMode) :
    Checked (Except Error Decimal) :=
  let refused (fault : Decimal.FitFault) : Except Error Decimal :=
    .error (.invalidValue (.decimalFit value precision scale fault))
  match value.rescale scale rounding with
  | .error fault => return refused fault
  | .ok result =>
    if result.scale ≠ scale then return refused .scaleOutOfReach
    else if precision - scale < 28 then do
      let limit ← wholeDecimal (← power (signed 128) 10 (precision - scale : Nat))
      return if limit.coefficient ≤ result.integerPart then refused .tooWide else .ok result
    else return .ok result

theorem limit_eq_ok {digits : Nat} (few : digits < 28) :
    power (signed 128) 10 digits = .ok (tenTo digits) ∧
      ∃ limit, wholeDecimal (tenTo digits) = .ok limit ∧ limit.coefficient = tenTo digits := by
  have ten : ((10 : Int) ^ (digits : Int).toNat) = tenTo digits := (Int.natCast_pow 10 digits).symm
  have most : tenTo digits ≤ 1000000000000000000000000000 := tenTo_le (Nat.le_of_lt_succ few)
  have bound : twoTo 96 = 79228162514264337593543950336 := rfl
  constructor
  · rw [← ten]
    apply power_eq_ok
    rw [ten, holds_signed128]
    omega
  · have small : tenTo digits < twoTo 96 := by omega
    obtain ⟨limit, made⟩ : ∃ limit,
        Decimal.make? (decide ((tenTo digits : Int) < 0)) (tenTo digits) 0 = some limit :=
      ⟨_, dif_pos small⟩
    refine ⟨limit, ?_, (Decimal.make?_eq_some made).1⟩
    rw [wholeDecimal, Int.natAbs_natCast, made]

theorem fitDecimal_eq_ok (value : Decimal) (precision scale : Nat) (rounding : Option RoundingMode) :
    fitDecimal value precision scale rounding =
      .ok (TypeBridge.fitDecimal value precision scale rounding) := by
  rw [fitDecimal, TypeBridge.fitDecimal, Decimal.fit_eq]
  cases value.rescale scale rounding with
  | error => rfl
  | ok result =>
    have checked : (Except.ok result >>= Decimal.checkFit precision scale) =
        Decimal.checkFit precision scale result := rfl
    rw [checked, Decimal.checkFit]
    dsimp only
    split
    next => rfl
    next =>
      by_cases few : precision - scale < 28
      · obtain ⟨raised, limit, made, coefficient⟩ := limit_eq_ok few
        rw [if_pos few]
        refine bind_eq_ok.mpr ⟨_, raised, bind_eq_ok.mpr ⟨_, made, ?_⟩⟩
        simp only [coefficient, few, true_and]
        split <;> rfl
      · rw [if_neg few, if_neg (fun wide => few wide.1)]
        rfl

def told {α β : Type} (function : α → β) (checked : Checked (Except Error α)) :
    Checked (Except Error β) :=
  (function <$> ·) <$> checked

theorem told_eq_ok {α β : Type} {function : α → β} {checked : Checked (Except Error α)}
    {answer : Except Error α} (went : checked = .ok answer) :
    told function checked = .ok (function <$> answer) := by
  rw [went]
  rfl

def decodeDate (value : DateTime) : Checked (Except Error LogicalValue) :=
  match Temporal.correctEarlyYear value with
  | .error cause => return .error cause
  | .ok corrected => told .shortTimestamp (epochMicros corrected 0)

/-- What a strategy decodes, with all that it calculates in words. The strategies left out do not
calculate. -/
def decode (strategy : ReadStrategy) (value : BackendValue) : Checked (Except Error LogicalValue) :=
  match strategy, value with
  | .decimal precision scale rounding, .decimal value =>
    told .decimal (fitDecimal value precision scale rounding)
  | .decimal precision scale rounding, .long value =>
    told .decimal (fitDecimal (Decimal.ofInt64 value) precision scale rounding)
  | .decimal precision scale rounding, .text text =>
    match readDecimal text with
    | .error cause => return .error cause
    | .ok value => told .decimal (fitDecimal value precision scale rounding)
  | .date, .date value => return .ok (.date (Int64.ofInt (← epochDay value)))
  | .dateAsTimestamp, .dateTime value => decodeDate value
  | .dateAsTimestamp, .date value => decodeDate ⟨value, .midnight⟩
  | .time precision, .time value => return .ok (.time (Int64.ofInt (← picosOfDay value precision)))
  | .timestamp precision, .dateTime value => told .shortTimestamp (epochMicros value precision)
  | .longTimestamp precision, .dateTime value => told .longTimestamp (longTimestamp value precision)
  | .shortZonedTimestamp, .dateTimeOffset value =>
    return .shortZonedTimestamp <$> shortZonedTimestamp value
  | .shortZonedTimestamp, .dateTime value =>
    return .shortZonedTimestamp <$> shortZonedTimestamp (.atUtc value)
  | .longZonedTimestamp, .dateTimeOffset value =>
    return .ok (.longZonedTimestamp (← longZonedTimestamp value))
  | .longZonedTimestamp, .dateTime value =>
    return .ok (.longZonedTimestamp (← longZonedTimestamp (.atUtc value)))
  | strategy, value => return strategy.decode value

theorem decodeDate_eq_ok (value : DateTime) :
    decodeDate value = .ok (ReadStrategy.decodeDate value) := by
  rw [decodeDate, ReadStrategy.decodeDate]
  cases Temporal.correctEarlyYear value with
  | error => rfl
  | ok corrected => exact told_eq_ok (epochMicros_eq_ok corrected 0)

theorem decode_eq_ok (strategy : ReadStrategy) (value : BackendValue) :
    decode strategy value = .ok (strategy.decode value) := by
  unfold decode
  split
  next precision scale rounding value =>
    exact told_eq_ok (fitDecimal_eq_ok value precision scale rounding)
  next precision scale rounding value =>
    exact told_eq_ok (fitDecimal_eq_ok (Decimal.ofInt64 value) precision scale rounding)
  next precision scale rounding text =>
    rw [ReadStrategy.decode]
    cases readDecimal text with
    | error => rfl
    | ok value => exact told_eq_ok (fitDecimal_eq_ok value precision scale rounding)
  next value => exact bind_eq_ok.mpr ⟨_, epochDay_eq_ok value, rfl⟩
  next value => exact decodeDate_eq_ok value
  next value => exact decodeDate_eq_ok ⟨value, .midnight⟩
  next precision value => exact bind_eq_ok.mpr ⟨_, picosOfDay_eq_ok value precision, rfl⟩
  next precision value => exact told_eq_ok (epochMicros_eq_ok value precision)
  next precision value => exact told_eq_ok (longTimestamp_eq_ok value precision)
  next value =>
    rw [shortZonedTimestamp, pack_eq]
    rfl
  next value =>
    rw [shortZonedTimestamp, pack_eq]
    rfl
  next value => exact bind_eq_ok.mpr ⟨_, longZonedTimestamp_eq_ok value, rfl⟩
  next value => exact bind_eq_ok.mpr ⟨_, longZonedTimestamp_eq_ok (.atUtc value), rfl⟩
  next => rfl

/-- The fraction of a second is the rest by a thousand million, also of a leap second. -/
def dateTimeText (value : DateTime) : Checked BackendValue := do
  let fraction ← remainder (unsigned 32) value.time.nanosecond 1000000000
  let digits := Text.padZeros 9 (Text.numeral fraction.toNat)
  return .text (String.ofList (value.secondChars ++
    if fraction = 0 then [] else '.' :: (digits.reverse.dropWhile (· == '0')).reverse))

def textOf (checked : Checked (Except Error DateTime)) : Checked (Except Error BackendValue) := do
  match ← checked with
  | .error cause => return .error cause
  | .ok value => return .ok (← dateTimeText value)

def dateText (day : Int64) : Except Error BackendValue :=
  return .text (String.ofList (← dateOfEpochDay day).chars)

def encode (strategy : WriteStrategy) (value : LogicalValue) : Checked (Except Error BackendValue) :=
  match strategy, value with
  | .decimal precision scale, .decimal value => told .decimal (fitDecimal value precision scale none)
  | .isoDate, .date day | .formattedDate, .date day =>
    return dateText day
  | .timestampToDate, .shortTimestamp micros =>
    told (fun value => .text (String.ofList value.secondChars)) (wholeSecondDateTime micros)
  | .time precision, .time picos => told .time (timeOfPicos picos precision)
  | .timestamp _, .shortTimestamp micros => told .dateTime (dateTimeOfEpochMicros micros)
  | .longTimestamp precision, .longTimestamp value =>
    told .dateTime (dateTimeOfLongTimestamp value precision)
  | .formattedTimestamp _, .shortTimestamp micros => textOf (dateTimeOfEpochMicros micros)
  | .formattedLongTimestamp precision, .longTimestamp value =>
    textOf (dateTimeOfLongTimestamp value precision)
  | .shortZonedTimestamp, .shortZonedTimestamp packed =>
    return .dateTimeOffset <$> Temporal.instantOfMillis (unpackMillis packed).toInt
  | .longZonedTimestamp, .longZonedTimestamp value => told .dateTimeOffset (instantOfLong value)
  | strategy, value => return strategy.encode value

theorem dateTimeText_eq_ok (value : DateTime) :
    dateTimeText value = .ok (WriteStrategy.dateTimeText value) := by
  have nanoseconds := value.time.nanosecond_lt
  have rest : (value.time.nanosecond : Int).tmod 1000000000 = value.time.fraction :=
    Int.tmod_eq_emod_of_nonneg (by omega)
  refine bind_eq_ok.mpr ⟨_, remainder_eq_ok (holds_unsigned32.mpr (by omega)) (by decide) (by decide), ?_⟩
  rw [rest, Int.toNat_natCast, WriteStrategy.dateTimeText, DateTime.chars, TimeOfDay.shortFraction]
  simp only [Int.natCast_eq_zero]
  rfl

theorem textOf_eq_ok {checked : Checked (Except Error DateTime)} {answer : Except Error DateTime}
    (went : checked = .ok answer) :
    textOf checked = .ok (WriteStrategy.dateTimeText <$> answer) := by
  refine bind_eq_ok.mpr ⟨_, went, ?_⟩
  cases answer with
  | error => rfl
  | ok value => exact bind_eq_ok.mpr ⟨_, dateTimeText_eq_ok value, rfl⟩

theorem dateText_eq (day : Int64) : dateText day = WriteStrategy.dateText day := by
  rw [dateText, dateOfEpochDay_eq, WriteStrategy.dateText]

theorem encode_eq_ok (strategy : WriteStrategy) (value : LogicalValue) :
    encode strategy value = .ok (strategy.encode value) := by
  unfold encode
  split
  next precision scale value => exact told_eq_ok (fitDecimal_eq_ok value precision scale none)
  next day => exact congrArg Except.ok (dateText_eq day)
  next day => exact congrArg Except.ok (dateText_eq day)
  next micros =>
    rw [told_eq_ok (wholeSecondDateTime_eq_ok micros), ← bind_pure_comp]
    rfl
  next precision picos => exact told_eq_ok (timeOfPicos_eq_ok picos precision)
  next micros => exact told_eq_ok (dateTimeOfEpochMicros_eq_ok micros)
  next precision value => exact told_eq_ok (dateTimeOfLongTimestamp_eq_ok value precision)
  next micros => exact textOf_eq_ok (dateTimeOfEpochMicros_eq_ok micros)
  next precision value => exact textOf_eq_ok (dateTimeOfLongTimestamp_eq_ok value precision)
  next packed =>
    rw [toInt_unpackMillis]
    rfl
  next value => exact told_eq_ok (instantOfLong_eq_ok value)
  next => rfl

/-- What is said against a value: that it is no value of its type, or breaks what its column promises. -/
inductive Refusal : Error → Prop where
  | invalidValue (cause : BadValue) : Refusal (.invalidValue cause)
  | metadataContract (cause : ContractBreach) : Refusal (.metadataContract cause)

theorem refuses_orRange {α : Type} (fault : RangeFault) (found : Option α) :
    FailsOnly Refusal (Temporal.orRange fault found) := by
  cases found with
  | none => exact failsOnly_error (.invalidValue _)
  | some value => exact failsOnly_ok value

theorem refuses_checkInteger (bits : Nat) (type : String) (value : Int64) :
    FailsOnly Refusal (checkInteger bits type value) := by
  unfold checkInteger
  split
  next => exact failsOnly_ok value
  next => exact failsOnly_error (.invalidValue _)

theorem refuses_fitDecimal (value : Decimal) (precision scale : Nat) (rounding : Option RoundingMode) :
    FailsOnly Refusal (TypeBridge.fitDecimal value precision scale rounding) := by
  unfold TypeBridge.fitDecimal
  split
  next fitted _ => exact failsOnly_ok fitted
  next => exact failsOnly_error (.invalidValue _)

theorem refuses_readDecimal (text : String) : FailsOnly Refusal (readDecimal text) := by
  unfold readDecimal
  split
  next value _ => exact failsOnly_ok value
  next => exact failsOnly_error (.invalidValue _)

theorem refuses_canonicalJson (text : String) : FailsOnly Refusal (canonicalJson text) := by
  unfold canonicalJson
  split
  next value _ => exact failsOnly_ok _
  next => exact failsOnly_error (.invalidValue _)

theorem refuses_decodeDate (value : DateTime) : FailsOnly Refusal (ReadStrategy.decodeDate value) := by
  have corrects : FailsOnly Refusal (Temporal.correctEarlyYear value) := by
    unfold Temporal.correctEarlyYear
    split
    next => exact failsOnly_ok value
    next => exact refuses_orRange _ _
  exact failsOnly_bind corrects fun _ => failsOnly_bind (refuses_orRange _ _) fun _ => failsOnly_ok _

theorem refuses_longTimestamp (value : DateTime) (precision : Nat) :
    FailsOnly Refusal (Temporal.longTimestamp value precision) :=
  failsOnly_bind (refuses_orRange _ _) fun _ => failsOnly_ok _

theorem refuses_timeOfPicos (picos : Int) (precision : Nat) :
    FailsOnly Refusal (Temporal.timeOfPicos picos precision) := by
  unfold Temporal.timeOfPicos
  split
  next => exact refuses_orRange _ _
  next => exact failsOnly_error (.invalidValue _)

theorem refuses_wholeSecondDateTime (micros : Int) :
    FailsOnly Refusal (Temporal.wholeSecondDateTime micros) := by
  unfold Temporal.wholeSecondDateTime
  split
  next => exact refuses_orRange _ _
  next => exact failsOnly_error (.metadataContract _)

theorem refuses_decode (strategy : ReadStrategy) (value : BackendValue) :
    FailsOnly Refusal (strategy.decode value) := by
  cases strategy with
  | tinyInt | smallInt | integer =>
    cases value with
    | null => exact failsOnly_ok _
    | long value => exact failsOnly_map _ (refuses_checkInteger _ _ _)
    | _ => exact failsOnly_error (.invalidValue _)
  | decimal precision scale rounding =>
    cases value with
    | null => exact failsOnly_ok _
    | decimal value => exact failsOnly_map _ (refuses_fitDecimal _ _ _ _)
    | long value => exact failsOnly_map _ (refuses_fitDecimal _ _ _ _)
    | text text =>
      exact failsOnly_bind (refuses_readDecimal text) fun value =>
        failsOnly_map LogicalValue.decimal (refuses_fitDecimal value precision scale rounding)
    | _ => exact failsOnly_error (.invalidValue _)
  | json =>
    cases value with
    | null => exact failsOnly_ok _
    | text text => exact failsOnly_map _ (refuses_canonicalJson text)
    | _ => exact failsOnly_error (.invalidValue _)
  | dateAsTimestamp =>
    cases value with
    | null => exact failsOnly_ok _
    | dateTime value => exact refuses_decodeDate value
    | date value => exact refuses_decodeDate _
    | _ => exact failsOnly_error (.invalidValue _)
  | timestamp precision =>
    cases value with
    | null => exact failsOnly_ok _
    | dateTime value => exact failsOnly_map _ (refuses_orRange _ _)
    | _ => exact failsOnly_error (.invalidValue _)
  | longTimestamp precision =>
    cases value with
    | null => exact failsOnly_ok _
    | dateTime value => exact failsOnly_map _ (refuses_longTimestamp value precision)
    | _ => exact failsOnly_error (.invalidValue _)
  | shortZonedTimestamp =>
    cases value with
    | null => exact failsOnly_ok _
    | dateTime value => exact failsOnly_map _ (refuses_orRange _ _)
    | dateTimeOffset value => exact failsOnly_map _ (refuses_orRange _ _)
    | _ => exact failsOnly_error (.invalidValue _)
  | _ =>
    -- These take a value as it is, or not at all.
    cases value <;> first
      | exact failsOnly_ok _
      | exact failsOnly_error (.invalidValue _)

theorem refuses_encode (strategy : WriteStrategy) (value : LogicalValue) :
    FailsOnly Refusal (strategy.encode value) := by
  cases strategy with
  | tinyInt | smallInt | integer =>
    cases value with
    | null => exact failsOnly_ok _
    | long value => exact failsOnly_map _ (refuses_checkInteger _ _ _)
    | _ => exact failsOnly_error (.invalidValue _)
  | decimal precision scale =>
    cases value with
    | null => exact failsOnly_ok _
    | decimal value => exact failsOnly_map _ (refuses_fitDecimal _ _ _ _)
    | _ => exact failsOnly_error (.invalidValue _)
  | isoDate | formattedDate =>
    cases value with
    | null => exact failsOnly_ok _
    | date day => exact failsOnly_bind (refuses_orRange _ _) fun _ => failsOnly_ok _
    | _ => exact failsOnly_error (.invalidValue _)
  | timestampToDate =>
    cases value with
    | null => exact failsOnly_ok _
    | shortTimestamp micros =>
      exact failsOnly_bind (refuses_wholeSecondDateTime _) fun _ => failsOnly_ok _
    | _ => exact failsOnly_error (.invalidValue _)
  | time precision =>
    cases value with
    | null => exact failsOnly_ok _
    | time picos => exact failsOnly_map _ (refuses_timeOfPicos _ _)
    | _ => exact failsOnly_error (.invalidValue _)
  | timestamp | formattedTimestamp =>
    cases value with
    | null => exact failsOnly_ok _
    | shortTimestamp micros => exact failsOnly_map _ (refuses_orRange _ _)
    | _ => exact failsOnly_error (.invalidValue _)
  | longTimestamp | formattedLongTimestamp =>
    cases value with
    | null => exact failsOnly_ok _
    | longTimestamp value => exact failsOnly_map _ (refuses_orRange _ _)
    | _ => exact failsOnly_error (.invalidValue _)
  | shortZonedTimestamp =>
    cases value with
    | null => exact failsOnly_ok _
    | shortZonedTimestamp packed => exact failsOnly_map _ (refuses_orRange _ _)
    | _ => exact failsOnly_error (.invalidValue _)
  | longZonedTimestamp =>
    cases value with
    | null => exact failsOnly_ok _
    | longZonedTimestamp value => exact failsOnly_map _ (refuses_orRange _ _)
    | _ => exact failsOnly_error (.invalidValue _)
  | _ =>
    cases value <;> first
      | exact failsOnly_ok _
      | exact failsOnly_error (.invalidValue _)

/-- No conversion of a value overflows, loses digits in a narrowing, divides by zero or hands out what a
function does not take, whatever the value, the precision and the scale: all that it calculates goes
through in words and gives what the conversion gives. What it does not convert it refuses. -/
theorem conversions_go_through :
    (∀ (strategy : ReadStrategy) (value : BackendValue),
      decode strategy value = .ok (strategy.decode value) ∧
        FailsOnly Refusal (strategy.decode value)) ∧
    ∀ (strategy : WriteStrategy) (value : LogicalValue),
      encode strategy value = .ok (strategy.encode value) ∧
        FailsOnly Refusal (strategy.encode value) := by
  constructor
  · intro strategy value
    exact ⟨decode_eq_ok strategy value, refuses_decode strategy value⟩
  · intro strategy value
    exact ⟨encode_eq_ok strategy value, refuses_encode strategy value⟩

end TypeBridge.Machine
