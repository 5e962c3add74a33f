import TypeBridge.Column.Mapping
import TypeBridge.Proofs.Outcome

/-!
What a column can be mapped to. Each rule of the resolution gives one of a few families of mappings, in
which the type, the way of reading, the way of writing and the pushdown go together; a precision or
scale stands within the bounds of its type.
-/
namespace TypeBridge

namespace Temporal

theorem maxPrecision_le (mode : Mode) : mode.maxPrecision ≤ LogicalType.maxTemporalPrecision := by
  cases mode <;> decide

theorem verifyPrecision_le {mode : Mode} {precision : Int} {verified : Nat}
    (h : verifyPrecision mode precision = .ok verified) : verified ≤ mode.maxPrecision := by
  unfold verifyPrecision at h
  split at h
  · cases h
  · cases h
    omega

theorem timePrecision_le {mode : Mode} {width : Int} {precision : Nat}
    (h : timePrecision mode width = .ok precision) : precision ≤ mode.maxPrecision := by
  unfold timePrecision at h
  split at h
  · cases h
    exact Nat.zero_le _
  · exact verifyPrecision_le h

theorem timestampPrecision_le {mode : Mode} {width scale : Int} {precision : Nat}
    (h : timestampPrecision mode width scale = .ok precision) : precision ≤ mode.maxPrecision := by
  unfold timestampPrecision at h
  split at h
  · exact verifyPrecision_le h
  · split at h
    · cases h
      exact Nat.zero_le _
    · exact verifyPrecision_le h

end Temporal

namespace ColumnMapping

open LogicalType (maxDecimalPrecision maxCharLength maxVarcharLength checkedTemporal)
open TypeBridge.Temporal

def timeOf (precision : Nat) : ColumnMapping :=
  ⟨.time precision, .time precision, .time precision, .full⟩

def timestampOf (mode : Mode) (precision : Nat) : ColumnMapping :=
  ⟨.timestamp precision,
    if precision ≤ maxShortPrecision then .timestamp precision else .longTimestamp precision,
    timestampWrite mode precision, .full⟩

def zonedOf (precision : Nat) : ColumnMapping :=
  if precision ≤ maxShortZonedPrecision then
    ⟨.timestampWithTimeZone precision, .shortZonedTimestamp, .shortZonedTimestamp, .full⟩
  else ⟨.timestampWithTimeZone precision, .longZonedTimestamp, .longZonedTimestamp, .full⟩

theorem zonedOf_logicalType (precision : Nat) :
    (zonedOf precision).logicalType = .timestampWithTimeZone precision := by
  unfold zonedOf
  split <;> rfl

theorem checkedTemporal_ok {mode : Mode} {precision : Nat} (name : String) (type : Nat → LogicalType)
    (stored : precision ≤ mode.maxPrecision) :
    checkedTemporal name type precision = .ok (type precision) := by
  have bound := maxPrecision_le mode
  rw [checkedTemporal, if_neg (by omega)]

theorem ofTime_eq (mode : Mode) (size : Int) :
    ofTime mode size = (timePrecision mode size).map timeOf := by
  unfold ofTime
  cases found : timePrecision mode size with
  | error => rfl
  | ok precision =>
    have checked := checkedTemporal_ok "TIME" .time (timePrecision_le found)
    simp only [bind, Except.bind, LogicalType.checkedTime, checked]
    rfl

theorem ofTimestamp_eq (mode : Mode) (size scale : Int) :
    ofTimestamp mode size scale = (timestampPrecision mode size scale).map (timestampOf mode) := by
  unfold ofTimestamp
  cases found : timestampPrecision mode size scale with
  | error => rfl
  | ok precision =>
    have checked := checkedTemporal_ok "TIMESTAMP" .timestamp (timestampPrecision_le found)
    simp only [bind, Except.bind, LogicalType.checkedTimestamp, checked]
    rfl

theorem ofZonedTimestamp_eq (mode : Mode) (size scale : Int) :
    ofZonedTimestamp mode size scale = (timestampPrecision mode size scale).map zonedOf := by
  unfold ofZonedTimestamp
  cases found : timestampPrecision mode size scale with
  | error => rfl
  | ok precision =>
    have checked := checkedTemporal_ok "TIMESTAMP WITH TIME ZONE" .timestampWithTimeZone
      (timestampPrecision_le found)
    simp only [bind, Except.bind, LogicalType.checkedTimestampWithTimeZone, checked, Except.map, zonedOf]
    split <;> rfl

/-- The mappings that resolution can give. -/
inductive Family (mode : Mode) (session : Session) : ColumnMapping → Prop where
  | boolean : Family mode session ⟨.boolean, .boolean, .boolean, .full⟩
  | tinyInt : Family mode session ofTinyInt
  | smallInt : Family mode session ofSmallInt
  | integer : Family mode session ofInteger
  | bigInt : Family mode session ofBigInt
  | real : Family mode session ⟨.real, .real, .real, .disabled⟩
  | double : Family mode session ⟨.double, .double, .double, .full⟩
  | decimal {precision scale : Nat} {rounding : Option RoundingMode} (positive : 1 ≤ precision)
      (known : precision ≤ maxDecimalPrecision) (fits : scale ≤ precision)
      (agreed : ∀ mode ∈ rounding, mode = session.roundingMode) :
      Family mode session (ofDecimal precision scale rounding)
  /-- A number whose precision is left open takes its scale from the session. -/
  | openDecimal (allowed : session.allowsOverflow = true) :
      Family mode session
        (ofDecimal maxDecimalPrecision session.defaultScale (some session.roundingMode))
  | char {length : Nat} (known : length ≤ maxCharLength) :
      Family mode session ⟨.char length, .char, .char, .caseInsensitive⟩
  | varchar {length : Option Nat} (known : ∀ bound ∈ length, bound ≤ maxVarcharLength) :
      Family mode session ⟨.varchar length, .varchar, .varchar, .caseInsensitive⟩
  | largeText : Family mode session ⟨.varchar none, .varchar, .varchar, .disabled⟩
  | varbinary : Family mode session ⟨.varbinary, .varbinary, .varbinary, .disabled⟩
  | json : Family mode session ⟨.json, .json, .varchar, .disabled⟩
  | date : Family mode session (ofDate mode)
  | time {precision : Nat} (stored : precision ≤ mode.maxPrecision) :
      Family mode session (timeOf precision)
  | timestamp {precision : Nat} (stored : precision ≤ mode.maxPrecision) :
      Family mode session (timestampOf mode precision)
  | zoned {precision : Nat} (utc : mode = .mysql) (stored : precision ≤ mode.maxPrecision) :
      Family mode session (zonedOf precision)

variable {mode : Mode} {session : Session} {mapping : ColumnMapping}

theorem family_ofVarchar (size : Int) : Family mode session (ofVarchar size) := by
  unfold ofVarchar
  apply Family.varchar
  intro bound member
  split at member
  · cases member
    omega
  · cases member

theorem family_ofChar (size : Int) : Family mode session (ofChar size) := by
  unfold ofChar
  split
  · exact .char (by omega)
  · exact family_ofVarchar size

theorem family_ofTime {size : Int} (h : ofTime mode size = .ok mapping) :
    Family mode session mapping := by
  rw [ofTime_eq] at h
  obtain ⟨precision, found, rfl⟩ := map_eq_ok.mp h
  exact .time (timePrecision_le found)

theorem family_ofTimestamp {size scale : Int} (h : ofTimestamp mode size scale = .ok mapping) :
    Family mode session mapping := by
  rw [ofTimestamp_eq] at h
  obtain ⟨precision, found, rfl⟩ := map_eq_ok.mp h
  exact .timestamp (timestampPrecision_le found)

theorem family_ofZonedTimestamp {size scale : Int} (utc : mode = .mysql)
    (h : ofZonedTimestamp mode size scale = .ok mapping) : Family mode session mapping := by
  rw [ofZonedTimestamp_eq] at h
  obtain ⟨precision, found, rfl⟩ := map_eq_ok.mp h
  exact .zoned utc (timestampPrecision_le found)

theorem family_ofNumeric {descriptor : Descriptor}
    (h : ofNumeric session descriptor = .ok (some mapping)) : Family mode session mapping := by
  unfold ofNumeric at h
  obtain ⟨precision, _, h⟩ := bind_eq_ok.mp h
  split at h
  next =>
    split at h
    next allowed =>
      cases h
      exact .openDecimal allowed
    next => cases h
  next =>
    obtain ⟨digits, _, h⟩ := bind_eq_ok.mp h
    dsimp only at h
    -- Three cases: the width is known, it is cut to the greatest, or the column is left out.
    split at h
    next known =>
      split at h
      next => cases h
      next consistent =>
        cases h
        exact .decimal (by omega) (by omega) (by omega) (by simp)
    next =>
      split at h
      next =>
        split at h
        next => cases h
        next consistent =>
          cases h
          exact .decimal (by decide) (Nat.le_refl _) (by omega) (by simp)
      next => cases h

theorem family_ofTypeName {descriptor : Descriptor} {folded : String} {found : Except Error ColumnMapping}
    (named : ofTypeName? mode descriptor folded = some found) (h : found = .ok mapping) :
    Family mode session mapping := by
  subst h
  unfold ofTypeName? at named
  split at named
  · cases named
    exact .smallInt
  · cases named
    exact .integer
  · cases named
    exact .integer
  · cases named
    exact .bigInt
  · cases named
    exact .decimal (by decide) (by decide) (by decide) (by simp)
  · cases named
    exact .date
  · cases named
    exact .json
  · cases named
    exact family_ofVarchar _
  · cases named
    exact family_ofVarchar _
  · obtain ⟨size, _, h⟩ := bind_eq_ok.mp (Option.some.inj named)
    exact family_ofTimestamp h
  · cases named

theorem family_ofTypeCode {descriptor : Descriptor}
    (h : ofTypeCode mode session descriptor = .ok (some mapping)) : Family mode session mapping := by
  unfold ofTypeCode at h
  split at h
  case h_1 => cases h; exact .boolean
  case h_2 => cases h; exact .tinyInt
  case h_3 => cases h; exact .smallInt
  case h_4 => cases h; exact .integer
  case h_5 => cases h; exact .bigInt
  case h_6 | h_7 => cases h; exact .real
  case h_8 | h_9 => cases h; exact .double
  case h_10 | h_11 => exact family_ofNumeric h
  case h_12 | h_13 =>
    obtain ⟨size, _, h⟩ := bind_eq_ok.mp h
    cases h
    exact family_ofChar size
  case h_14 | h_15 | h_16 =>
    obtain ⟨size, _, h⟩ := bind_eq_ok.mp h
    cases h
    exact family_ofVarchar size
  case h_17 => cases h; exact .largeText
  case h_18 | h_19 | h_20 | h_21 => cases h; exact .varbinary
  case h_22 =>
    obtain ⟨size, _, h⟩ := bind_eq_ok.mp h
    obtain ⟨found, timed, h⟩ := bind_eq_ok.mp h
    cases h
    exact family_ofTime timed
  case h_23 =>
    obtain ⟨size, _, h⟩ := bind_eq_ok.mp h
    -- The same column is an instant in one mode and a local timestamp in the other.
    cases mode with
    | mysql =>
      obtain ⟨found, zoned, h⟩ := bind_eq_ok.mp h
      cases h
      exact family_ofZonedTimestamp rfl zoned
    | oracle =>
      obtain ⟨found, stamped, h⟩ := bind_eq_ok.mp h
      cases h
      exact family_ofTimestamp stamped
  case h_24 => cases h

/-- Every mapping that resolution gives belongs to a family. -/
theorem family_of_resolve {forced : List Int} {descriptor : Descriptor}
    (h : resolve mode session forced descriptor = .ok (some mapping)) :
    Family mode session mapping := by
  unfold resolve at h
  obtain ⟨name, _, h⟩ := bind_eq_ok.mp h
  split at h
  · cases h
    exact .largeText
  · split at h
    next found named =>
      obtain ⟨result, ok, h⟩ := bind_eq_ok.mp h
      cases h
      exact family_ofTypeName named ok
    next => exact family_ofTypeCode h

/-- A type with the strategies by which its values may be read. -/
inductive Reads : LogicalType → ReadStrategy → Prop where
  | boolean : Reads .boolean .boolean
  | tinyInt : Reads .tinyInt .tinyInt
  | smallInt : Reads .smallInt .smallInt
  | integer : Reads .integer .integer
  | bigInt : Reads .bigInt .bigInt
  | real : Reads .real .real
  | double : Reads .double .double
  | decimal (precision scale : Nat) (rounding : Option RoundingMode) :
      Reads (.decimal precision scale) (.decimal precision scale rounding)
  | char (length : Nat) : Reads (.char length) .char
  | varchar (length : Option Nat) : Reads (.varchar length) .varchar
  | varbinary : Reads .varbinary .varbinary
  | json : Reads .json .json
  | date : Reads .date .date
  | dateAsTimestamp : Reads (.timestamp 0) .dateAsTimestamp
  | time (precision : Nat) : Reads (.time precision) (.time precision)
  | timestamp {precision : Nat} (short : precision ≤ maxShortPrecision) :
      Reads (.timestamp precision) (.timestamp precision)
  | longTimestamp {precision : Nat} (long : maxShortPrecision < precision) :
      Reads (.timestamp precision) (.longTimestamp precision)
  | shortZonedTimestamp (precision : Nat) :
      Reads (.timestampWithTimeZone precision) .shortZonedTimestamp
  | longZonedTimestamp (precision : Nat) :
      Reads (.timestampWithTimeZone precision) .longZonedTimestamp

theorem reads_of_family (family : Family mode session mapping) :
    Reads mapping.logicalType mapping.read := by
  cases family with
  | date => cases mode <;> constructor
  | @timestamp precision stored =>
    by_cases short : precision ≤ maxShortPrecision
    · simp only [timestampOf, if_pos short]
      exact .timestamp short
    · simp only [timestampOf, if_neg short]
      exact .longTimestamp (by omega)
  | zoned =>
    unfold zonedOf
    split <;> constructor
  | _ => constructor

end ColumnMapping

end TypeBridge
