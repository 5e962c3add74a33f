import TypeBridge.Proofs.Column.WellFormed
import TypeBridge.Proofs.Temporal.RoundTrip

/-!
Digits of the second in decoded values. Times and local timestamps are rounded to the digits of their
column. Instants are not: the short form has milliseconds and the long form all digits of the driver,
whatever the column declares, so an instant has no more digits than its column just when the driver
sends no more, or the column has those of the form.
-/
namespace TypeBridge

namespace LogicalValue

def picos? : LogicalValue → Option Int
  | time picos => some picos.toInt
  | shortTimestamp micros => some (micros.toInt * 1000000)
  | longTimestamp value => some value.picos
  | shortZonedTimestamp packed => some (Temporal.unpackMillis packed * 1000000000)
  | longZonedTimestamp value => some value.picos
  | _ => none

/-- A time or a timestamp has no digits of the second after the first `digits`. -/
def HasDigits (digits : Nat) (value : LogicalValue) : Prop :=
  ∃ picos, value.picos? = some picos ∧ Temporal.step 12 digits ∣ picos

end LogicalValue

namespace ReadStrategy

open TypeBridge.Temporal

variable {strategy : ReadStrategy} {value : BackendValue} {source : OffsetDateTime}
  {decoded : LogicalValue} {digits : Nat}

def secondDigits? : ReadStrategy → Option Nat
  | dateAsTimestamp => some 0
  | time digits | timestamp digits | longTimestamp digits => some digits
  | shortZonedTimestamp => some 3
  | longZonedTimestamp => some 9
  | _ => none

theorem hasDigits_of_decodes (decodes : strategy.Decodes value decoded)
    (known : strategy.secondDigits? = some digits) : decoded.HasDigits digits := by
  cases decodes with
  | dateAsTimestamp _ _ counted =>
    cases known
    exact ⟨_, rfl, step_dvd_epochMicros counted⟩
  | time precision value =>
    cases known
    refine ⟨_, rfl, ?_⟩
    rw [toInt_picosOfDay]
    exact step_dvd_picosOfDay value digits
  | timestamp counted =>
    cases known
    exact ⟨_, rfl, step_dvd_epochMicros counted⟩
  | longTimestamp counted =>
    cases known
    refine ⟨_, rfl, ?_⟩
    rw [picos_of_longTimestamp counted]
    exact step_dvd_roundToPrecision ..
  | shortZonedTimestamp =>
    cases known
    exact ⟨_, rfl, Int.dvd_mul_left ..⟩
  | longZonedTimestamp =>
    cases known
    refine ⟨_, rfl, ?_⟩
    rw [picos_longZonedTimestamp]
    exact Int.dvd_mul_left ..
  | _ => cases known

/-- A driver value stands for one instant. -/
theorem InstantSource.unique {other : OffsetDateTime} (origin : InstantSource value source)
    (again : InstantSource value other) : other = source := by
  cases origin <;> cases again <;> rfl

theorem hasDigits_of_source (decodes : strategy.Decodes value decoded)
    (zoned : strategy = .shortZonedTimestamp ∨ strategy = .longZonedTimestamp)
    (origin : InstantSource value source) (onGrid : step 9 digits ∣ source.utc.epochNano) :
    decoded.HasDigits digits := by
  rcases zoned with rfl | rfl
  · cases decodes with
    | shortZonedTimestamp again packs =>
      obtain rfl := origin.unique again
      refine ⟨_, rfl, ?_⟩
      rw [unpackMillis_of_shortZonedTimestamp packs]
      exact step_dvd_epochMilli onGrid
  · cases decodes with
    | longZonedTimestamp again =>
      obtain rfl := origin.unique again
      refine ⟨_, rfl, ?_⟩
      rw [picos_longZonedTimestamp]
      exact step_dvd_picos onGrid

def nineDigits : DateTime :=
  ⟨⟨2024, 3, 5, by decide, by decide, by decide⟩, ⟨25689, 123456789, by decide, by decide⟩⟩

theorem decode_nineDigits_short :
    shortZonedTimestamp.decode (.dateTime nineDigits) =
      .ok (.shortZonedTimestamp (1709622489123 * 4096)) :=
  map_eq_ok.mpr ⟨1709622489123 * 4096, shortZonedTimestamp_eq_ok.mpr rfl, rfl⟩

theorem decode_nineDigits_long :
    longZonedTimestamp.decode (.dateTime nineDigits) =
      .ok (.longZonedTimestamp (Temporal.longZonedTimestamp (.atUtc nineDigits))) := rfl

end ReadStrategy

namespace ColumnMapping

open ReadStrategy (InstantSource nineDigits)

variable {mode : Mode} {session : Session} {mapping : ColumnMapping} {digits : Nat}

theorem secondDigits_of_family (family : Family mode session mapping)
    (typed : mapping.logicalType.secondDigits? = some digits)
    (three : mapping.logicalType = .timestampWithTimeZone digits → digits = 3) :
    mapping.read.secondDigits? = some digits := by
  cases family with
  | time =>
    cases typed
    rfl
  | timestamp =>
    cases typed
    unfold timestampOf
    dsimp only
    split <;> rfl
  | zoned =>
    rw [zonedOf_logicalType] at typed three
    cases typed
    obtain rfl := three rfl
    rfl
  | date =>
    cases mode with
    | mysql => cases typed
    | oracle =>
      cases typed
      rfl
  | _ => cases typed

theorem zoned_of_family (family : Family mode session mapping)
    (zoned : mapping.logicalType = .timestampWithTimeZone digits) :
    digits ≤ 6 ∧ (digits ≤ 3 ∧ mapping.read = .shortZonedTimestamp ∨
      3 < digits ∧ mapping.read = .longZonedTimestamp) := by
  cases family with
  | zoned utc stored =>
    rw [zonedOf_logicalType] at zoned
    cases zoned
    subst utc
    refine ⟨stored, ?_⟩
    unfold zonedOf
    split
    next short => exact .inl ⟨short, rfl⟩
    next long => exact .inr ⟨Nat.lt_of_not_le long, rfl⟩
  | date => cases mode <;> cases zoned
  | _ => cases zoned

/-- A column of instants is decoded with further digits than it declares, unless these are three. -/
theorem digits_of_zoned (family : Family mode session mapping)
    (zoned : mapping.logicalType = .timestampWithTimeZone digits)
    (within : ∀ value decoded, value.isNull = false → mapping.read.decode value = .ok decoded →
      decoded.HasDigits digits) : digits = 3 := by
  have millis : ∀ fewer : Fin 3, ¬Temporal.step 12 fewer ∣ 1709622489123 * 1000000000 := by decide
  have nanos : ∀ fewer : Fin 9, ¬Temporal.step 12 fewer ∣ 1709622489123456789 * 1000 := by decide
  obtain ⟨most, ⟨few, read⟩ | ⟨many, read⟩⟩ := zoned_of_family family zoned
  · rw [read] at within
    obtain ⟨picos, counted, onGrid⟩ :=
      within (.dateTime nineDigits) _ rfl ReadStrategy.decode_nineDigits_short
    cases counted
    have least : ¬digits < 3 := fun fewer => millis ⟨digits, fewer⟩ onGrid
    omega
  · rw [read] at within
    obtain ⟨picos, counted, onGrid⟩ :=
      within (.dateTime nineDigits) _ rfl ReadStrategy.decode_nineDigits_long
    cases counted
    rw [Temporal.picos_longZonedTimestamp] at onGrid
    exact absurd onGrid (nanos ⟨digits, by omega⟩)

/-- The values of a column have no more digits of the second than its type, unless they are instants in a
column that does not declare three. Of those, the ones that the driver sends without further digits have
none. -/
theorem decoded_hasDigits_iff {forced : List Int} {descriptor : Descriptor}
    (resolved : resolve mode session forced descriptor = .ok (some mapping))
    (typed : mapping.logicalType.secondDigits? = some digits) :
    ((∀ value decoded, value.isNull = false → mapping.read.decode value = .ok decoded →
        decoded.HasDigits digits) ↔
      (mapping.logicalType = .timestampWithTimeZone digits → digits = 3)) ∧
    ∀ value source decoded, InstantSource value source →
      mapping.read.decode value = .ok decoded → Temporal.step 9 digits ∣ source.utc.epochNano →
        decoded.HasDigits digits := by
  have family := family_of_resolve resolved
  have rounded (three : mapping.logicalType = .timestampWithTimeZone digits → digits = 3)
      (value : BackendValue) (decoded : LogicalValue) (present : value.isNull = false)
      (decoding : mapping.read.decode value = .ok decoded) : decoded.HasDigits digits :=
    ReadStrategy.hasDigits_of_decodes ((ReadStrategy.decode_eq_ok present).mp decoding)
      (secondDigits_of_family family typed three)
  refine ⟨⟨fun within zoned => digits_of_zoned family zoned within, rounded⟩, ?_⟩
  intro value source decoded origin decoding onGrid
  have present : value.isNull = false := by cases origin <;> rfl
  by_cases zoned : mapping.logicalType = .timestampWithTimeZone digits
  · have read : mapping.read = .shortZonedTimestamp ∨ mapping.read = .longZonedTimestamp := by
      obtain ⟨-, ⟨-, short⟩ | ⟨-, long⟩⟩ := zoned_of_family family zoned
      · exact .inl short
      · exact .inr long
    exact ReadStrategy.hasDigits_of_source ((ReadStrategy.decode_eq_ok present).mp decoding) read
      origin onGrid
  · exact rounded (fun typed => absurd typed zoned) value decoded present decoding

/-- Instants with three digits, which are those of the short form. -/
theorem decoded_hasDigits_millis :
    resolve .mysql .default [] ((Descriptor.ofType .timestamp "TIMESTAMP").withSize 23) =
        .ok (some (zonedOf 3)) ∧
      ∀ value decoded, value.isNull = false → (zonedOf 3).read.decode value = .ok decoded →
        decoded.HasDigits 3 := by
  have resolved : resolve .mysql .default [] ((Descriptor.ofType .timestamp "TIMESTAMP").withSize 23) =
      .ok (some (zonedOf 3)) := rfl
  exact ⟨resolved, (decoded_hasDigits_iff resolved rfl).1.mpr fun _ => rfl⟩

/-- A column of whole seconds is decoded with milliseconds. -/
theorem wholeSeconds_with_millis :
    resolve .mysql .default [] ((Descriptor.ofType .timestamp "TIMESTAMP").withSize 19) =
        .ok (some (zonedOf 0)) ∧
      (zonedOf 0).logicalType = .timestampWithTimeZone 0 ∧
      (zonedOf 0).read.decode (.dateTime nineDigits) = .ok (.shortZonedTimestamp (1709622489123 * 4096)) ∧
      ¬(LogicalValue.shortZonedTimestamp (1709622489123 * 4096)).HasDigits 0 := by
  refine ⟨rfl, rfl, ReadStrategy.decode_nineDigits_short, ?_⟩
  rintro ⟨picos, counted, onGrid⟩
  cases counted
  exact absurd onGrid (by decide)

end ColumnMapping

end TypeBridge
