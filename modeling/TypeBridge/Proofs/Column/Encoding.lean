import TypeBridge.Column.WriteStrategy
import TypeBridge.Proofs.Outcome

/-!
What encoding can do. Each strategy takes values of one kind, and a parameter that was bound says what it
was made of; everything about bound parameters follows from this list.
-/
namespace TypeBridge.WriteStrategy

open TypeBridge.Temporal

/-- How a strategy gets a parameter from a value of the engine that is not null. -/
inductive Encodes : WriteStrategy → LogicalValue → BackendValue → Prop where
  | boolean (value : Bool) : Encodes .boolean (.boolean value) (.long (if value then 1 else 0))
  | tinyInt {value word : Int64} (checked : checkInteger 8 "tinyint" value = .ok word) :
      Encodes .tinyInt (.long value) (.long word)
  | smallInt {value word : Int64} (checked : checkInteger 16 "smallint" value = .ok word) :
      Encodes .smallInt (.long value) (.long word)
  | integer {value word : Int64} (checked : checkInteger 32 "integer" value = .ok word) :
      Encodes .integer (.long value) (.long word)
  | bigInt (value : Int64) : Encodes .bigInt (.long value) (.long value)
  | real (value : Binary32) : Encodes .real (.real value) (.float value)
  | double (value : Binary64) : Encodes .double (.double value) (.double value)
  | decimal {precision scale : Nat} {value fitted : Decimal}
      (fits : fitDecimal value precision scale none = .ok fitted) :
      Encodes (.decimal precision scale) (.decimal value) (.decimal fitted)
  | char (text : String) : Encodes .char (.text text) (.text text)
  | varchar (text : String) : Encodes .varchar (.text text) (.text text)
  | varbinary (bytes : List UInt8) : Encodes .varbinary (.bytes bytes) (.bytes bytes)
  | isoDate {day : Int64} {date : Date} (found : dateOfEpochDay day.toInt = .ok date) :
      Encodes .isoDate (.date day) (.text (String.ofList date.chars))
  | formattedDate {day : Int64} {date : Date} (found : dateOfEpochDay day.toInt = .ok date) :
      Encodes .formattedDate (.date day) (.text (String.ofList date.chars))
  | timestampToDate {micros : Int64} {value : DateTime}
      (found : wholeSecondDateTime micros.toInt = .ok value) :
      Encodes .timestampToDate (.shortTimestamp micros) (.text (String.ofList value.secondChars))
  | time {precision : Nat} {picos : Int64} {value : TimeOfDay}
      (found : timeOfPicos picos.toInt precision = .ok value) :
      Encodes (.time precision) (.time picos) (.time value)
  | timestamp {precision : Nat} {micros : Int64} {value : DateTime}
      (found : dateTimeOfEpochMicros micros.toInt = .ok value) :
      Encodes (.timestamp precision) (.shortTimestamp micros) (.dateTime value)
  | longTimestamp {precision : Nat} {long : LongTimestamp} {value : DateTime}
      (found : dateTimeOfLongTimestamp long precision = .ok value) :
      Encodes (.longTimestamp precision) (.longTimestamp long) (.dateTime value)
  | formattedTimestamp {precision : Nat} {micros : Int64} {value : DateTime}
      (found : dateTimeOfEpochMicros micros.toInt = .ok value) :
      Encodes (.formattedTimestamp precision) (.shortTimestamp micros)
        (.text (String.ofList value.chars))
  | formattedLongTimestamp {precision : Nat} {long : LongTimestamp} {value : DateTime}
      (found : dateTimeOfLongTimestamp long precision = .ok value) :
      Encodes (.formattedLongTimestamp precision) (.longTimestamp long)
        (.text (String.ofList value.chars))
  | shortZonedTimestamp {packed : Int64} {value : OffsetDateTime}
      (found : instantOfMillis (unpackMillis packed) = .ok value) :
      Encodes .shortZonedTimestamp (.shortZonedTimestamp packed) (.dateTimeOffset value)
  | longZonedTimestamp {long : LongZonedTimestamp} {value : OffsetDateTime}
      (found : instantOfLong long = .ok value) :
      Encodes .longZonedTimestamp (.longZonedTimestamp long) (.dateTimeOffset value)

/-- Encoding does what the list says, and all of it. -/
theorem encode_eq_ok {strategy : WriteStrategy} {value : LogicalValue} {bound : BackendValue}
    (present : value.isNull = false) :
    strategy.encode value = .ok bound ↔ Encodes strategy value bound := by
  constructor
  · intro h
    unfold encode at h
    split at h
    case h_1 => cases present
    -- Values that are taken over as they are.
    case h_2 | h_6 | h_7 | h_8 | h_10 | h_11 | h_12 =>
      cases h
      constructor
    -- Values with a check or a computation that may fail.
    case h_3 | h_4 | h_5 | h_9 | h_16 | h_17 | h_18 | h_19 | h_20 | h_21 | h_22 =>
      obtain ⟨_, done, rfl⟩ := map_eq_ok.mp h
      constructor
      exact done
    case h_13 | h_14 | h_15 =>
      obtain ⟨_, done, h⟩ := bind_eq_ok.mp h
      cases h
      constructor
      exact done
    case h_23 => cases h
  · intro h
    cases h with
    | tinyInt done | smallInt done | integer done | decimal done | time done | timestamp done
    | longTimestamp done | formattedTimestamp done | formattedLongTimestamp done
    | shortZonedTimestamp done | longZonedTimestamp done => exact map_eq_ok.mpr ⟨_, done, rfl⟩
    | isoDate done | formattedDate done | timestampToDate done => exact bind_eq_ok.mpr ⟨_, done, rfl⟩
    | _ => rfl

end TypeBridge.WriteStrategy
