import TypeBridge.Proofs.Column.Created
import TypeBridge.Proofs.Column.Decoding
import TypeBridge.Proofs.Column.Encoding

/-!
Mappings of columns are well formed. The type passes the checks of its constructor and is one that the mode
can store; the strategies work with the precision and the scale of the type and with the form of
timestamps that its precision asks for; and comparisons that depend on the backend are not left to it.
-/
namespace TypeBridge

inductive TimestampForm where
  | short
  | long
  deriving DecidableEq

/-- The form for some digits of the second, up to `most` of which fit into one word. -/
def TimestampForm.ofDigits (most digits : Nat) : TimestampForm := if digits ≤ most then short else long

def LogicalValue.form? : LogicalValue → Option TimestampForm
  | shortTimestamp _ | shortZonedTimestamp _ => some .short
  | longTimestamp _ | longZonedTimestamp _ => some .long
  | _ => none

namespace LogicalType

def checked : LogicalType → Except Error LogicalType
  | decimal precision scale => checkedDecimal precision scale
  | char length => checkedChar length
  | time digits => checkedTime digits
  | timestamp digits => checkedTimestamp digits
  | timestampWithTimeZone digits => checkedTimestampWithTimeZone digits
  | timeWithTimeZone digits => checkedTimeWithTimeZone digits
  | type => .ok type

def secondDigits? : LogicalType → Option Nat
  | time digits | timestamp digits | timestampWithTimeZone digits | timeWithTimeZone digits => some digits
  | _ => none

def precisions : LogicalType → List Nat
  | decimal precision scale => [precision, scale]
  | time digits | timestamp digits | timestampWithTimeZone digits | timeWithTimeZone digits => [digits]
  | _ => []

def comparesApart : LogicalType → Bool
  | char _ | varchar _ | json | real | varbinary => true
  | _ => false

theorem checked_of_valid {type : LogicalType} (valid : type.Valid) : type.checked = .ok type := by
  cases type with
  | decimal precision scale =>
    obtain ⟨positive, known, fits⟩ := valid
    rw [checked, checkedDecimal, if_neg (by omega), if_neg (by omega)]
  | char length => rw [checked, checkedChar, if_neg (Nat.not_lt.mpr valid)]
  | time digits => rw [checked, checkedTime, checkedTemporal, if_neg (Nat.not_lt.mpr valid)]
  | timestamp digits => rw [checked, checkedTimestamp, checkedTemporal, if_neg (Nat.not_lt.mpr valid)]
  | timestampWithTimeZone digits =>
    rw [checked, checkedTimestampWithTimeZone, checkedTemporal, if_neg (Nat.not_lt.mpr valid)]
  | timeWithTimeZone digits =>
    rw [checked, checkedTimeWithTimeZone, checkedTemporal, if_neg (Nat.not_lt.mpr valid)]
  | _ => rfl

end LogicalType

namespace ReadStrategy

def precisions : ReadStrategy → List Nat
  | decimal precision scale _ => [precision, scale]
  | time digits | timestamp digits | longTimestamp digits => [digits]
  | _ => []

def form? : ReadStrategy → Option TimestampForm
  | dateAsTimestamp | timestamp _ | shortZonedTimestamp => some .short
  | longTimestamp _ | longZonedTimestamp => some .long
  | _ => none

/-- The form of a strategy is that of the values it decodes. -/
theorem form?_of_decodes {strategy : ReadStrategy} {value : BackendValue} {decoded : LogicalValue}
    (decodes : strategy.Decodes value decoded) : decoded.form? = strategy.form? := by
  cases decodes <;> rfl

end ReadStrategy

namespace WriteStrategy

def precisions : WriteStrategy → List Nat
  | decimal precision scale => [precision, scale]
  | time digits | timestamp digits | longTimestamp digits | formattedTimestamp digits
  | formattedLongTimestamp digits => [digits]
  | _ => []

def form? : WriteStrategy → Option TimestampForm
  | timestampToDate | timestamp _ | formattedTimestamp _ | shortZonedTimestamp => some .short
  | longTimestamp _ | formattedLongTimestamp _ | longZonedTimestamp => some .long
  | _ => none

theorem form?_of_encodes {strategy : WriteStrategy} {value : LogicalValue} {bound : BackendValue}
    (encodes : Encodes strategy value bound) : value.form? = strategy.form? := by
  cases encodes <;> rfl

end WriteStrategy

namespace ColumnMapping

open LogicalType (maxDecimalPrecision maxVarcharLength)
open TypeBridge.Temporal

/-- What every mapping keeps to. The digits of the second are at most those of the mode, and timestamps
are in the short form up to six digits, with a zone up to three. -/
structure WellFormed (mode : Mode) (mapping : ColumnMapping) : Prop where
  checked : mapping.logicalType.checked = .ok mapping.logicalType
  stored : ∀ digits ∈ mapping.logicalType.secondDigits?, digits ≤ mode.maxPrecision
  bounded : ∀ length, mapping.logicalType = .varchar (some length) → length ≤ maxVarcharLength
  hasColumn : mapping.logicalType.HasColumn
  zone : ∀ digits, mapping.logicalType = .timestampWithTimeZone digits → mode ≠ .oracle
  readPrecisions : mapping.read.precisions ≠ [] → mapping.read.precisions = mapping.logicalType.precisions
  writePrecisions : mapping.write.precisions ≠ [] →
    mapping.write.precisions = mapping.logicalType.precisions
  timestampForm : ∀ digits, mapping.logicalType = .timestamp digits →
    mapping.read.form? = some (.ofDigits 6 digits) ∧ mapping.write.form? = some (.ofDigits 6 digits)
  zonedForm : ∀ digits, mapping.logicalType = .timestampWithTimeZone digits →
    mapping.read.form? = some (.ofDigits 3 digits) ∧ mapping.write.form? = some (.ofDigits 3 digits)
  decodes : ∀ value decoded, value.isNull = false → mapping.read.decode value = .ok decoded →
    decoded.form? = mapping.read.form?
  encodes : ∀ value bound, value.isNull = false → mapping.write.encode value = .ok bound →
    value.form? = mapping.write.form?
  pushdown : mapping.pushdown = .full → mapping.logicalType.comparesApart = false

variable {mode : Mode} {session : Session} {mapping : ColumnMapping}

theorem valid_of_family (known : session.defaultScale ≤ maxDecimalPrecision)
    (family : Family mode session mapping) : mapping.logicalType.Valid := by
  cases family with
  | decimal positive small fits => exact ⟨positive, small, fits⟩
  | openDecimal => exact ⟨by decide, Nat.le_refl _, known⟩
  | char small => exact small
  | @varchar length small =>
    cases length with
    | none => trivial
    | some length => exact Nat.lt_of_le_of_lt (small length rfl) (by decide)
  | date => cases mode <;> first | trivial | exact Nat.zero_le _
  | time stored | timestamp stored => exact Nat.le_trans stored (maxPrecision_le mode)
  | zoned utc stored =>
    rw [zonedOf_logicalType]
    exact Nat.le_trans stored (maxPrecision_le mode)
  | _ => trivial

theorem stored_of_family (family : Family mode session mapping) :
    ∀ digits ∈ mapping.logicalType.secondDigits?, digits ≤ mode.maxPrecision := by
  intro digits member
  cases family with
  | time stored | timestamp stored =>
    cases member
    exact stored
  | zoned utc stored =>
    rw [zonedOf_logicalType] at member
    cases member
    exact stored
  | date =>
    cases mode with
    | mysql => cases member
    | oracle =>
      cases member
      exact Nat.zero_le _
  | _ => cases member

/-- A strategy that has a precision has that of the timestamp, and its form. -/
theorem timestampOf_strategies {digits : Nat} (stored : digits ≤ mode.maxPrecision) :
    (timestampOf mode digits).read.precisions = [digits] ∧
      (timestampOf mode digits).write.precisions = [digits] ∧
      (timestampOf mode digits).read.form? = some (.ofDigits maxShortPrecision digits) ∧
      (timestampOf mode digits).write.form? = some (.ofDigits maxShortPrecision digits) := by
  unfold timestampOf timestampWrite TimestampForm.ofDigits
  by_cases short : digits ≤ maxShortPrecision
  · simp only [if_pos short]
    cases mode <;> exact ⟨rfl, rfl, rfl, rfl⟩
  · simp only [if_neg short]
    cases mode with
    | mysql => exact absurd stored short
    | oracle => exact ⟨rfl, rfl, rfl, rfl⟩

theorem zonedOf_strategies (digits : Nat) :
    (zonedOf digits).read.precisions = [] ∧ (zonedOf digits).write.precisions = [] ∧
      (zonedOf digits).read.form? = some (.ofDigits maxShortZonedPrecision digits) ∧
      (zonedOf digits).write.form? = some (.ofDigits maxShortZonedPrecision digits) := by
  unfold zonedOf TimestampForm.ofDigits
  split <;> exact ⟨rfl, rfl, rfl, rfl⟩

theorem precisions_of_family (family : Family mode session mapping) :
    (mapping.read.precisions ≠ [] → mapping.read.precisions = mapping.logicalType.precisions) ∧
      (mapping.write.precisions ≠ [] → mapping.write.precisions = mapping.logicalType.precisions) := by
  cases family with
  | decimal | openDecimal | time => exact ⟨fun _ => rfl, fun _ => rfl⟩
  | timestamp stored =>
    obtain ⟨read, write, _⟩ := timestampOf_strategies stored
    exact ⟨fun _ => read, fun _ => write⟩
  | @zoned digits =>
    obtain ⟨read, write, _⟩ := zonedOf_strategies digits
    exact ⟨fun present => absurd read present, fun present => absurd write present⟩
  | date => cases mode <;> exact ⟨fun present => absurd rfl present, fun present => absurd rfl present⟩
  | _ => exact ⟨fun present => absurd rfl present, fun present => absurd rfl present⟩

theorem form_of_timestamp (family : Family mode session mapping) {digits : Nat}
    (typed : mapping.logicalType = .timestamp digits) :
    mapping.read.form? = some (.ofDigits maxShortPrecision digits) ∧
      mapping.write.form? = some (.ofDigits maxShortPrecision digits) := by
  cases family with
  | timestamp stored =>
    cases typed
    exact (timestampOf_strategies stored).2.2
  | zoned =>
    rw [zonedOf_logicalType] at typed
    cases typed
  | date =>
    cases mode with
    | mysql => cases typed
    | oracle =>
      cases typed
      exact ⟨rfl, rfl⟩
  | _ => cases typed

theorem form_of_zoned (family : Family mode session mapping) {digits : Nat}
    (typed : mapping.logicalType = .timestampWithTimeZone digits) :
    mode = .mysql ∧ mapping.read.form? = some (.ofDigits maxShortZonedPrecision digits) ∧
      mapping.write.form? = some (.ofDigits maxShortZonedPrecision digits) := by
  cases family with
  | zoned utc stored =>
    rw [zonedOf_logicalType] at typed
    cases typed
    exact ⟨utc, (zonedOf_strategies digits).2.2⟩
  | date => cases mode <;> cases typed
  | _ => cases typed

theorem bounded_of_family (family : Family mode session mapping) {length : Nat}
    (typed : mapping.logicalType = .varchar (some length)) : length ≤ maxVarcharLength := by
  cases family with
  | varchar small =>
    cases typed
    exact small length rfl
  | zoned =>
    rw [zonedOf_logicalType] at typed
    cases typed
  | date => cases mode <;> cases typed
  | _ => cases typed

theorem hasColumn_of_family (family : Family mode session mapping) : mapping.logicalType.HasColumn := by
  cases family with
  | date => cases mode <;> trivial
  | zoned =>
    rw [zonedOf_logicalType]
    trivial
  | _ => trivial

theorem comparesApart_of_family (family : Family mode session mapping) (full : mapping.pushdown = .full) :
    mapping.logicalType.comparesApart = false := by
  cases family with
  | real | char | varchar | largeText | varbinary | json => cases full
  | date => cases mode <;> rfl
  | zoned =>
    rw [zonedOf_logicalType]
    rfl
  | _ => rfl

/-- Whatever a column is mapped to is well formed, when the scale for open decimals is one that a decimal
can have. -/
theorem resolve_wellFormed {forced : List Int} {descriptor : Descriptor}
    (known : session.defaultScale ≤ maxDecimalPrecision)
    (resolved : resolve mode session forced descriptor = .ok (some mapping)) :
    WellFormed mode mapping := by
  have family := family_of_resolve resolved
  obtain ⟨readPrecisions, writePrecisions⟩ := precisions_of_family family
  exact
    { checked := LogicalType.checked_of_valid (valid_of_family known family)
      stored := stored_of_family family
      bounded := fun _ => bounded_of_family family
      hasColumn := hasColumn_of_family family
      zone := fun _ typed oracle => by
        rw [(form_of_zoned family typed).1] at oracle
        cases oracle
      readPrecisions := readPrecisions
      writePrecisions := writePrecisions
      timestampForm := fun _ => form_of_timestamp family
      zonedForm := fun _ typed => (form_of_zoned family typed).2
      decodes := fun _ _ present decoding =>
        ReadStrategy.form?_of_decodes ((ReadStrategy.decode_eq_ok present).mp decoding)
      encodes := fun _ _ present encoding =>
        WriteStrategy.form?_of_encodes ((WriteStrategy.encode_eq_ok present).mp encoding)
      pushdown := comparesApart_of_family family }

/-- A number without a declared precision, in a session that keeps all digits after the point. -/
theorem resolve_wellFormed_openNumber :
    let session : Session := ⟨.allowOverflow, 38, .halfUp⟩
    let descriptor := (Descriptor.ofType .numeric "NUMBER").withSize 0
    resolve .oracle session [] descriptor = .ok (some (ofDecimal 38 38 (some .halfUp))) ∧
      WellFormed .oracle (ofDecimal 38 38 (some .halfUp)) := by
  intro session descriptor
  have resolved : resolve .oracle session [] descriptor =
      .ok (some (ofDecimal 38 38 (some .halfUp))) := rfl
  exact ⟨resolved, resolve_wellFormed (Nat.le_refl 38) resolved⟩

end ColumnMapping

end TypeBridge
