import TypeBridge.Column.ReadStrategy
import TypeBridge.Proofs.Outcome

/-!
What decoding can do. Each strategy takes driver values of a few kinds, and one that was decoded says what
it was made of; everything about decoded values follows from this list.
-/
namespace TypeBridge

theorem checkInteger_eq_ok {bits : Nat} {type : String} {value word : Int64} :
    checkInteger bits type value = .ok word ↔
      value = word ∧ -(twoTo (bits - 1) : Int) ≤ word.toInt ∧ word.toInt < twoTo (bits - 1) := by
  unfold checkInteger
  constructor
  · intro h
    split at h
    next within =>
      cases h
      exact ⟨rfl, within⟩
    next => cases h
  · rintro ⟨rfl, within⟩
    exact if_pos within

theorem fitDecimal_eq_ok {value fitted : Decimal} {precision scale : Nat}
    {rounding : Option RoundingMode} : fitDecimal value precision scale rounding = .ok fitted ↔
      value.fit precision scale rounding = .ok fitted := by
  unfold fitDecimal
  constructor
  · intro h
    split at h
    next fits =>
      cases h
      exact fits
    next => cases h
  · intro fits
    rw [fits]

namespace ReadStrategy

inductive DecimalSource : BackendValue → Decimal → Prop where
  | decimal (value : Decimal) : DecimalSource (.decimal value) value
  | long (value : Int64) : DecimalSource (.long value) (Decimal.ofInt64 value)
  | text {text : String} {value : Decimal} (read : readDecimal text = .ok value) :
      DecimalSource (.text text) value

inductive DateSource : BackendValue → DateTime → Prop where
  | dateTime (value : DateTime) : DateSource (.dateTime value) value
  | date (value : Date) : DateSource (.date value) ⟨value, .midnight⟩

/-- The instants that a driver value stands for. Without an offset it is taken in UTC. -/
inductive InstantSource : BackendValue → OffsetDateTime → Prop where
  | offset (value : OffsetDateTime) : InstantSource (.dateTimeOffset value) value
  | plain (value : DateTime) : InstantSource (.dateTime value) (.atUtc value)

/-- How a strategy gets a value of the engine from a driver value that is not null. -/
inductive Decodes : ReadStrategy → BackendValue → LogicalValue → Prop where
  | bool (value : Bool) : Decodes .boolean (.bool value) (.boolean value)
  | boolean (value : Int64) : Decodes .boolean (.long value) (.boolean (value.toInt != 0))
  | tinyInt {value word : Int64} (checked : checkInteger 8 "tinyint" value = .ok word) :
      Decodes .tinyInt (.long value) (.long word)
  | smallInt {value word : Int64} (checked : checkInteger 16 "smallint" value = .ok word) :
      Decodes .smallInt (.long value) (.long word)
  | integer {value word : Int64} (checked : checkInteger 32 "integer" value = .ok word) :
      Decodes .integer (.long value) (.long word)
  | bigInt (value : Int64) : Decodes .bigInt (.long value) (.long value)
  | real (value : Binary32) : Decodes .real (.float value) (.real value)
  | narrowed (value : Binary64) : Decodes .real (.double value) (.real value.narrow)
  | double (value : Binary64) : Decodes .double (.double value) (.double value)
  | widened (value : Binary32) : Decodes .double (.float value) (.double value.widen)
  | decimal {precision scale : Nat} {rounding : Option RoundingMode} {value : BackendValue}
      {source fitted : Decimal} (origin : DecimalSource value source)
      (fits : fitDecimal source precision scale rounding = .ok fitted) :
      Decodes (.decimal precision scale rounding) value (.decimal fitted)
  | char (text : String) :
      Decodes .char (.text text)
        (.text (String.ofList (Text.dropEndWhile (· == ' ') text.toList)))
  | varchar (text : String) : Decodes .varchar (.text text) (.text text)
  | json {text canonical : String} (read : canonicalJson text = .ok canonical) :
      Decodes .json (.text text) (.text canonical)
  | varbinary (bytes : List UInt8) : Decodes .varbinary (.bytes bytes) (.bytes bytes)
  | date (value : Date) : Decodes .date (.date value) (.date (Int64.ofInt value.epochDay))
  | dateAsTimestamp {value : BackendValue} {source corrected : DateTime} {micros : Int64}
      (origin : DateSource value source) (moved : Temporal.correctEarlyYear source = .ok corrected)
      (counted : Temporal.epochMicros corrected 0 = .ok micros) :
      Decodes .dateAsTimestamp value (.shortTimestamp micros)
  | time (precision : Nat) (value : TimeOfDay) :
      Decodes (.time precision) (.time value)
        (.time (Int64.ofInt (Temporal.picosOfDay value precision)))
  | timestamp {precision : Nat} {value : DateTime} {micros : Int64}
      (counted : Temporal.epochMicros value precision = .ok micros) :
      Decodes (.timestamp precision) (.dateTime value) (.shortTimestamp micros)
  | longTimestamp {precision : Nat} {value : DateTime} {long : LongTimestamp}
      (counted : Temporal.longTimestamp value precision = .ok long) :
      Decodes (.longTimestamp precision) (.dateTime value) (.longTimestamp long)
  | shortZonedTimestamp {value : BackendValue} {source : OffsetDateTime} {packed : Int64}
      (origin : InstantSource value source)
      (packs : Temporal.shortZonedTimestamp source = .ok packed) :
      Decodes .shortZonedTimestamp value (.shortZonedTimestamp packed)
  | longZonedTimestamp {value : BackendValue} {source : OffsetDateTime}
      (origin : InstantSource value source) :
      Decodes .longZonedTimestamp value (.longZonedTimestamp (Temporal.longZonedTimestamp source))

theorem decodes_date {value : BackendValue} {source : DateTime} {decoded : LogicalValue}
    (origin : DateSource value source) (h : decodeDate source = .ok decoded) :
    Decodes .dateAsTimestamp value decoded := by
  obtain ⟨corrected, moved, h⟩ := bind_eq_ok.mp h
  obtain ⟨micros, counted, h⟩ := bind_eq_ok.mp h
  cases h
  exact .dateAsTimestamp origin moved counted

theorem decodes_decimal {value : BackendValue} {source : Decimal} {precision scale : Nat}
    {rounding : Option RoundingMode} {decoded : LogicalValue} (origin : DecimalSource value source)
    (h : LogicalValue.decimal <$> fitDecimal source precision scale rounding = .ok decoded) :
    Decodes (.decimal precision scale rounding) value decoded := by
  obtain ⟨fitted, fits, rfl⟩ := map_eq_ok.mp h
  exact .decimal origin fits

theorem decodes_zoned {value : BackendValue} {source : OffsetDateTime} {decoded : LogicalValue}
    (origin : InstantSource value source)
    (h : LogicalValue.shortZonedTimestamp <$> Temporal.shortZonedTimestamp source = .ok decoded) :
    Decodes .shortZonedTimestamp value decoded := by
  obtain ⟨packed, packs, rfl⟩ := map_eq_ok.mp h
  exact .shortZonedTimestamp origin packs

/-- Decoding does what the list says, and all of it. -/
theorem decode_eq_ok {strategy : ReadStrategy} {value : BackendValue} {decoded : LogicalValue}
    (present : value.isNull = false) :
    strategy.decode value = .ok decoded ↔ Decodes strategy value decoded := by
  constructor
  · intro h
    unfold decode at h
    split at h
    case h_1 => cases present
    -- Values that are taken over as they are.
    case h_2 | h_3 | h_7 | h_8 | h_9 | h_10 | h_11 | h_15 | h_16 | h_18 | h_19 | h_22 =>
      cases h
      constructor
    -- Values with a check or a computation that may fail.
    case h_4 | h_5 | h_6 | h_17 | h_23 | h_24 =>
      obtain ⟨_, done, rfl⟩ := map_eq_ok.mp h
      constructor
      exact done
    case h_12 value => exact decodes_decimal (.decimal value) h
    case h_13 value => exact decodes_decimal (.long value) h
    case h_14 =>
      obtain ⟨_, read, h⟩ := bind_eq_ok.mp h
      obtain ⟨_, fits, h⟩ := bind_eq_ok.mp h
      cases h
      exact .decimal (.text read) fits
    case h_20 value => exact decodes_date (.dateTime value) h
    case h_21 value => exact decodes_date (.date value) h
    case h_25 value => exact decodes_zoned (.offset value) h
    case h_26 value => exact decodes_zoned (.plain value) h
    case h_27 value =>
      cases h
      exact .longZonedTimestamp (.offset value)
    case h_28 value =>
      cases h
      exact .longZonedTimestamp (.plain value)
    case h_29 => cases h
  · intro h
    cases h with
    | tinyInt done | smallInt done | integer done | json done | timestamp done | longTimestamp done =>
      exact map_eq_ok.mpr ⟨_, done, rfl⟩
    | decimal origin fits =>
      cases origin with
      | decimal | long => exact map_eq_ok.mpr ⟨_, fits, rfl⟩
      | text read => exact bind_eq_ok.mpr ⟨_, read, bind_eq_ok.mpr ⟨_, fits, rfl⟩⟩
    | dateAsTimestamp origin moved counted =>
      cases origin <;> exact bind_eq_ok.mpr ⟨_, moved, bind_eq_ok.mpr ⟨_, counted, rfl⟩⟩
    | shortZonedTimestamp origin packs => cases origin <;> exact map_eq_ok.mpr ⟨_, packs, rfl⟩
    | longZonedTimestamp origin => cases origin <;> rfl
    | _ => rfl

end ReadStrategy

end TypeBridge
