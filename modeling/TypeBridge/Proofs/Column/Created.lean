import TypeBridge.Column.WriteMapping
import TypeBridge.Proofs.Column.Driver
import TypeBridge.Proofs.Column.Rules

/-!
A column that was created for a type is found again with a type that holds all its values. Writing
chooses a column type, the driver describes the column, and reading resolves the description; the type
found may be wider, and a precision past what the mode stores is cut to that.
-/
namespace TypeBridge

namespace LogicalType

def integerDigits : LogicalType → Nat
  | tinyInt => 3
  | smallInt => 5
  | integer => 10
  | bigInt => 19
  | _ => 0

/-- Whether every value of the type `written` has its place in the type `found`, with the precision that
the mode stores. -/
def holds (mode : Mode) (written found : LogicalType) : Bool :=
  decide (written = found) ||
    match written, found with
    | boolean, tinyInt => true
    | boolean, decimal precision 0 => 1 ≤ precision
    | char _, varchar none => true
    | varchar (some shorter), varchar (some longer) => shorter ≤ longer
    | varchar _, varchar none => true
    | date, timestamp 0 => decide (mode = .oracle)
    | time precision, time stored => stored == min precision 6
    | timestamp precision, timestamp stored => stored == min precision mode.maxPrecision
    | timestampWithTimeZone precision, timestampWithTimeZone stored => stored == min precision 6
    -- One mode keeps instants in timestamps without a zone.
    | timestampWithTimeZone precision, timestamp stored =>
      decide (mode = .oracle) && stored == min precision 6
    | written, decimal precision 0 => written.isInteger && written.integerDigits ≤ precision
    | written, found =>
      written.isInteger && found.isInteger && written.integerDigits ≤ found.integerDigits

section

variable {mode : Mode} {written found : LogicalType}

theorem isInteger_eq_true (whole : written.isInteger = true) :
    written = tinyInt ∨ written = smallInt ∨ written = integer ∨ written = bigInt := by
  cases written <;> simp_all [isInteger]

theorem holds_integer (whole : written.isInteger = true) (held : written.holds mode found = true) :
    (found.isInteger = true ∧ written.integerDigits ≤ found.integerDigits) ∨
      ∃ precision, found = .decimal precision 0 ∧ written.integerDigits ≤ precision := by
  obtain rfl | rfl | rfl | rfl := isInteger_eq_true whole
  all_goals
    cases found with
    | decimal precision scale =>
      cases scale with
      | zero => exact .inr ⟨precision, rfl, by simpa [holds, isInteger] using held⟩
      | succ => simp [holds, isInteger] at held
    | tinyInt | smallInt | integer | bigInt => simp_all [holds, isInteger, integerDigits]
    | _ => simp [holds, isInteger] at held

def FoundAsItself : LogicalType → Prop
  | real | double | decimal _ _ | varbinary => True
  | _ => False

theorem holds_itself (held : written.holds mode found = true) (alone : written.FoundAsItself) :
    written = found := by
  cases written with
  | real | double | decimal | varbinary =>
    unfold holds at held
    split at held <;> simp_all [isInteger]
  | _ => exact alone.elim

theorem holds_char {length : Nat} (held : (char length).holds mode found = true) :
    found = .char length ∨ found = .varchar none := by
  unfold holds at held
  split at held <;> simp_all [isInteger]

theorem holds_varchar {length : Option Nat} (held : (varchar length).holds mode found = true) :
    ∃ longer, found = .varchar longer := by
  cases found with
  | varchar longer => exact ⟨longer, rfl⟩
  | decimal _ scale => cases scale <;> simp [holds, isInteger] at held
  | _ => simp [holds, isInteger] at held

theorem holds_timestamp {precision : Nat} (stored : precision ≤ mode.maxPrecision)
    (held : (timestamp precision).holds mode found = true) : found = .timestamp precision := by
  cases found with
  | timestamp digits =>
    simp only [holds, Bool.or_eq_true, decide_eq_true_eq, beq_iff_eq] at held
    rcases held with same | least
    · exact same.symm
    · rw [least, Nat.min_eq_left stored]
  | decimal _ scale => cases scale <;> simp [holds, isInteger] at held
  | _ => simp [holds, isInteger] at held

end

/-- Types for which columns can be created. -/
def HasColumn : LogicalType → Prop
  | timeWithTimeZone _ | uuid => False
  | _ => True

end LogicalType

namespace Temporal

open Driver (displayWidth)

theorem verifyPrecision_ok {mode : Mode} {precision : Nat} (positive : 1 ≤ precision)
    (stored : precision ≤ mode.maxPrecision) : verifyPrecision mode precision = .ok precision := by
  rw [verifyPrecision, if_neg (by omega)]
  rfl

theorem timePrecision_displayWidth {mode : Mode} {precision : Nat}
    (stored : precision ≤ mode.maxPrecision) :
    timePrecision mode (displayWidth timeWidth precision) = .ok precision := by
  by_cases none : precision = 0
  · subst none
    rfl
  · have width : displayWidth timeWidth precision = timeWidth + 1 + precision := by
      rw [displayWidth, if_neg (by omega)]
    rw [timePrecision, width, if_neg (by omega)]
    have digits : timeWidth + 1 + (precision : Int) - timeWidth - 1 = precision := by omega
    rw [digits]
    exact verifyPrecision_ok (by omega) stored

theorem timestampPrecision_displayWidth {mode : Mode} {precision : Nat} (scale : Int)
    (stored : precision ≤ mode.maxPrecision) :
    timestampPrecision mode (displayWidth timestampWidth precision) scale = .ok precision := by
  by_cases none : precision = 0
  · subst none
    rfl
  · have width : displayWidth timestampWidth precision = timestampWidth + 1 + precision := by
      rw [displayWidth, if_neg (by omega)]
    rw [timestampPrecision, width, if_neg (by omega), if_neg (by omega)]
    have digits : timestampWidth + 1 + (precision : Int) - timestampWidth - 1 = precision := by omega
    rw [digits]
    exact verifyPrecision_ok (by omega) stored

end Temporal

namespace ColumnMapping

open Driver (reported? describe? describe?_sql baseName numbers)

/-- A number whose digits stand in the bracket, without more digits after the point than there are, is
taken as declared. -/
theorem ofNumeric_declared (session : Session) {descriptor : Descriptor} {precision scale : Nat}
    (size : descriptor.columnSize = some (precision : Int))
    (digits : descriptor.decimalDigits = some (scale : Int))
    (positive : 1 ≤ precision) (known : precision ≤ LogicalType.maxDecimalPrecision)
    (fits : scale ≤ precision) :
    ofNumeric session descriptor = .ok (some (ofDecimal precision scale none)) := by
  have width : (precision : Int) + max (-(scale : Int)) 0 = precision := by omega
  have after : max (scale : Int) 0 = scale := by omega
  simp only [ofNumeric, Descriptor.requiredSize, size, Descriptor.requiredDigits, digits, bind,
    Except.bind, width, after]
  rw [if_neg (by omega), if_pos (by omega), if_neg (by omega)]
  rfl

theorem ofVarchar_natCast {length : Nat} (known : length ≤ LogicalType.maxVarcharLength) :
    ofVarchar length = ⟨.varchar (some length), .varchar, .varchar, .caseInsensitive⟩ := by
  rw [ofVarchar, if_pos (by omega)]
  rfl

theorem ofChar_natCast {length : Nat} (known : length ≤ LogicalType.maxCharLength) :
    ofChar length = ⟨.char length, .char, .char, .caseInsensitive⟩ := by
  rw [ofChar, if_pos (by omega)]
  rfl

end ColumnMapping

namespace LogicalType

open Driver (reported? describe? describe?_sql baseName numbers displayWidth)
open ColumnMapping (resolve timeOf timestampOf zonedOf ofNumeric_declared ofTime_eq ofTimestamp_eq
  ofZonedTimestamp_eq)
open TypeBridge.Temporal
open WriteMapping (ofType)

/-- A column that is created for the type is found again with a type that holds it. -/
def Returns (mode : Mode) (type : LogicalType) : Prop :=
  ∃ written descriptor mapping, ofType mode type = .ok written ∧
    describe? mode written.dataType.sql = some descriptor ∧
    resolve mode .default [] descriptor = .ok (some mapping) ∧
    type.holds mode mapping.logicalType = true

variable {mode : Mode} {type : LogicalType}

theorem returns_of (written : WriteMapping) (descriptor : Descriptor) (mapping : ColumnMapping)
    (writes : ofType mode type = .ok written)
    (bound : ∀ number ∈ numbers written.dataType, number < twoTo 31)
    (reports : reported? mode (baseName written.dataType)
      (((numbers written.dataType).map Int.ofNat).getD 0 0)
      (((numbers written.dataType).map Int.ofNat).getD 1 0) = some descriptor)
    (found : resolve mode .default [] descriptor = .ok (some mapping))
    (held : type.holds mode mapping.logicalType = true) : Returns mode type :=
  ⟨written, descriptor, mapping, writes, (describe?_sql mode _ bound).trans reports, found, held⟩

theorem returns_plain {dataType : DataType} {write : WriteStrategy} (descriptor : Descriptor)
    (mapping : ColumnMapping) (writes : ofType mode type = .ok ⟨dataType, write⟩)
    (plain : numbers dataType = [])
    (reports : reported? mode (baseName dataType) 0 0 = some descriptor)
    (found : resolve mode .default [] descriptor = .ok (some mapping))
    (held : type.holds mode mapping.logicalType = true) : Returns mode type := by
  apply returns_of ⟨dataType, write⟩ descriptor mapping writes
  · simp [plain]
  · rw [plain]
    exact reports
  · exact found
  · exact held

theorem holds_self (mode : Mode) (type : LogicalType) : type.holds mode type = true := by
  simp [holds]

theorem numbers_bound {limit : Nat} (small : limit < twoTo 31) {numbers : List Nat}
    (h : ∀ number ∈ numbers, number ≤ limit) : ∀ number ∈ numbers, number < twoTo 31 :=
  fun number member => Nat.lt_of_le_of_lt (h number member) small

theorem returns_decimal (mode : Mode) {precision scale : Nat} (positive : 1 ≤ precision)
    (known : precision ≤ maxDecimalPrecision) (fits : scale ≤ precision) :
    Returns mode (.decimal precision scale) := by
  have bound : ∀ number ∈ [precision, scale], number < twoTo 31 := by
    apply numbers_bound (show maxDecimalPrecision < twoTo 31 by decide)
    simp only [List.mem_cons, List.not_mem_nil, or_false, forall_eq_or_imp, forall_eq]
    omega
  let described (type : DriverType) (name : String) : Descriptor :=
    ((Descriptor.ofType type name).withSize precision).withDigits scale
  have found (type : DriverType) (name : String) :
      ColumnMapping.ofNumeric .default (described type name) =
        .ok (some (.ofDecimal precision scale none)) :=
    ofNumeric_declared .default rfl rfl positive known fits
  cases mode with
  | mysql =>
    exact returns_of ⟨.decimal precision scale, .decimal precision scale⟩
      (described .decimal "DECIMAL") (.ofDecimal precision scale none) rfl bound rfl
      (found .decimal "DECIMAL") (holds_self ..)
  | oracle =>
    exact returns_of ⟨.number precision (some scale), .decimal precision scale⟩
      (described .numeric "NUMBER") (.ofDecimal precision scale none) rfl bound rfl
      (found .numeric "NUMBER") (holds_self ..)

theorem returns_whole {precision : Nat} {write : WriteStrategy}
    (writes : ofType .oracle type = .ok ⟨WriteMapping.wholeNumber precision, write⟩)
    (positive : 1 ≤ precision) (known : precision ≤ maxDecimalPrecision)
    (held : type.holds .oracle (.decimal precision 0) = true) : Returns .oracle type := by
  have bound : ∀ number ∈ [precision], number < twoTo 31 := by
    apply numbers_bound (show maxDecimalPrecision < twoTo 31 by decide)
    simpa using known
  let described : Descriptor :=
    ((Descriptor.ofType .numeric "NUMBER").withSize precision).withDigits (0 : Nat)
  have found : ColumnMapping.ofNumeric .default described = .ok (some (.ofDecimal precision 0 none)) :=
    ofNumeric_declared .default rfl rfl positive known (Nat.zero_le _)
  exact returns_of ⟨WriteMapping.wholeNumber precision, write⟩ described (.ofDecimal precision 0 none)
    writes bound rfl found held

theorem returns_time (mode : Mode) (precision : Nat) : Returns mode (.time precision) := by
  have stored : min precision 6 ≤ mode.maxPrecision := by
    cases mode <;> simp only [Mode.maxPrecision] <;> omega
  have bound : ∀ number ∈ [min precision 6], number < twoTo 31 := by
    apply numbers_bound (show 6 < twoTo 31 by decide)
    simp only [List.mem_singleton, forall_eq]
    omega
  have found : ColumnMapping.ofTime mode (displayWidth timeWidth (min precision 6 : Nat)) =
      .ok (timeOf (min precision 6)) := by
    rw [ofTime_eq, timePrecision_displayWidth stored]
    rfl
  apply returns_of ⟨.time (min precision 6), .time (min precision 6)⟩
    ((Descriptor.ofType .time "TIME").withSize (displayWidth timeWidth (min precision 6 : Nat)))
    (timeOf (min precision 6)) rfl bound
  · cases mode <;> rfl
  · exact congrArg (some <$> ·) found
  · simp [holds, timeOf]

theorem returns_stored (mode : Mode) {precision : Nat} {written : WriteMapping} {descriptor : Descriptor}
    (writes : ofType mode (.timestamp precision) = .ok written)
    (bound : ∀ number ∈ numbers written.dataType, number < twoTo 31)
    (reports : reported? mode (baseName written.dataType)
      (((numbers written.dataType).map Int.ofNat).getD 0 0)
      (((numbers written.dataType).map Int.ofNat).getD 1 0) = some descriptor)
    (resolved : resolve mode .default [] descriptor = some <$> ColumnMapping.ofTimestamp mode
      (displayWidth timestampWidth (min precision mode.maxPrecision : Nat))
      (min precision mode.maxPrecision : Nat)) : Returns mode (.timestamp precision) := by
  have stored : min precision mode.maxPrecision ≤ mode.maxPrecision := Nat.min_le_right ..
  apply returns_of written descriptor (timestampOf mode (min precision mode.maxPrecision)) writes bound
    reports
  · rw [resolved, ofTimestamp_eq, timestampPrecision_displayWidth _ stored]
    rfl
  · simp [holds, timestampOf]

theorem returns_timestamp (mode : Mode) (precision : Nat) : Returns mode (.timestamp precision) := by
  have bound : ∀ number ∈ [min precision mode.maxPrecision], number < twoTo 31 := by
    apply numbers_bound (show mode.maxPrecision < twoTo 31 by cases mode <;> decide)
    simp only [List.mem_singleton, forall_eq]
    omega
  cases mode with
  | mysql =>
    have writes : ∃ write, WriteMapping.ofTimestamp .mysql precision =
        ⟨.dateTime (min precision Mode.mysql.maxPrecision), write⟩ := by
      simp only [WriteMapping.ofTimestamp]
      by_cases short : precision ≤ Mode.mysql.maxPrecision
      · exact ⟨_, by rw [if_pos short, Nat.min_eq_left short]⟩
      · exact ⟨_, by rw [if_neg short, Nat.min_eq_right (by omega)]⟩
    obtain ⟨write, writes⟩ := writes
    exact returns_stored .mysql (congrArg Except.ok writes) bound rfl rfl
  | oracle =>
    by_cases whole : precision = 0
    · -- Whole seconds are kept in a date, which carries a time of day.
      subst whole
      exact returns_of ⟨.date, .timestampToDate⟩ ((Descriptor.ofType .timestamp "DATE").withSize 19)
        (.ofDate .oracle) rfl (by simp [numbers]) rfl rfl (by decide)
    · have writes : ∃ write, WriteMapping.ofTimestamp .oracle precision =
          ⟨.timestamp (min precision Mode.oracle.maxPrecision), write⟩ := by
        simp only [WriteMapping.ofTimestamp, if_neg whole]
        exact ⟨_, rfl⟩
      obtain ⟨write, writes⟩ := writes
      exact returns_stored .oracle (congrArg Except.ok writes) bound rfl rfl

theorem returns_zoned (mode : Mode) (precision : Nat) :
    Returns mode (.timestampWithTimeZone precision) := by
  have stored : min precision 6 ≤ mode.maxPrecision := by
    cases mode <;> simp only [Mode.maxPrecision] <;> omega
  have bound : ∀ number ∈ [min precision 6], number < twoTo 31 := by
    apply numbers_bound (show 6 < twoTo 31 by decide)
    simp only [List.mem_singleton, forall_eq]
    omega
  let described : Descriptor := ((Descriptor.ofType .timestamp "TIMESTAMP").withSize
    (displayWidth timestampWidth (min precision 6 : Nat))).withDigits (min precision 6 : Nat)
  have read := timestampPrecision_displayWidth (min precision 6 : Nat) stored
  cases mode with
  | mysql =>
    have found : ColumnMapping.ofZonedTimestamp .mysql
        (displayWidth timestampWidth (min precision 6 : Nat)) (min precision 6 : Nat) =
          .ok (zonedOf (min precision 6)) := by
      rw [ofZonedTimestamp_eq, read]
      rfl
    apply returns_of (WriteMapping.ofZonedTimestamp precision) described (zonedOf (min precision 6))
      rfl bound rfl
    · exact congrArg (some <$> ·) found
    · simp only [zonedOf]
      split <;> simp [holds]
  | oracle =>
    have found : ColumnMapping.ofTimestamp .oracle
        (displayWidth timestampWidth (min precision 6 : Nat)) (min precision 6 : Nat) =
          .ok (timestampOf .oracle (min precision 6)) := by
      rw [ofTimestamp_eq, read]
      rfl
    apply returns_of (WriteMapping.ofZonedTimestamp precision) described
      (timestampOf .oracle (min precision 6)) rfl bound rfl
    · exact congrArg (some <$> ·) found
    · simp [holds, timestampOf]

theorem returns_clob {write : WriteStrategy} (writes : ofType mode type = .ok ⟨.clob, write⟩)
    (held : type.holds mode (.varchar none) = true) : Returns mode type := by
  apply returns_plain (.ofType .clob "CLOB") .forcedVarchar writes rfl
  · cases mode <;> rfl
  · rfl
  · exact held

theorem returns_char (mode : Mode) {length : Nat} (known : length ≤ maxCharLength) :
    Returns mode (.char length) := by
  have bound : ∀ number ∈ [length], number < twoTo 31 := by
    apply numbers_bound (show maxCharLength < twoTo 31 by decide)
    simpa using known
  -- In either mode a short text is padded to its length, and any other has no limit.
  have stored : WriteMapping.charType mode length = .char length ∨
      WriteMapping.charType mode length = .charOfChars length ∨
      WriteMapping.charType mode length = .clob := by
    unfold WriteMapping.charType
    cases mode <;> dsimp only <;> split <;> simp
  have described : resolve mode .default [] ((Descriptor.ofType .char "CHAR").withSize length) =
      .ok (some ⟨.char length, .char, .char, .caseInsensitive⟩) :=
    congrArg (fun mapping => Except.ok (some mapping)) (ColumnMapping.ofChar_natCast known)
  rcases stored with stored | stored | stored
  · apply returns_of ⟨.char length, .char⟩ ((Descriptor.ofType .char "CHAR").withSize length)
      ⟨.char length, .char, .char, .caseInsensitive⟩ _ bound _ described (holds_self ..)
    · rw [ofType, stored]
    · cases mode <;> rfl
  · apply returns_of ⟨.charOfChars length, .char⟩ ((Descriptor.ofType .char "CHAR").withSize length)
      ⟨.char length, .char, .char, .caseInsensitive⟩ _ bound _ described (holds_self ..)
    · rw [ofType, stored]
    · cases mode <;> rfl
  · have writes : ofType mode (.char length) = .ok ⟨.clob, .char⟩ := by rw [ofType, stored]
    exact returns_clob writes rfl

theorem returns_band {length size : Nat} {dataType : DataType} {descriptor : Descriptor}
    (writes : WriteMapping.varcharType .mysql (some length) = dataType) (plain : numbers dataType = [])
    (reports : reported? .mysql (baseName dataType) 0 0 = some descriptor)
    (resolved : resolve .mysql .default [] descriptor = .ok (some (.ofVarchar size)))
    (fits : length ≤ size) (known : size ≤ maxVarcharLength) :
    Returns .mysql (.varchar (some length)) := by
  have written : ofType .mysql (.varchar (some length)) = .ok ⟨dataType, .varchar⟩ := by
    rw [ofType, writes]
  apply returns_plain descriptor (.ofVarchar size) written plain reports resolved
  rw [ColumnMapping.ofVarchar_natCast known]
  simp [holds, fits]

theorem returns_longText {length : Option Nat}
    (writes : WriteMapping.varcharType .mysql length = .longText) :
    Returns .mysql (.varchar length) := by
  have written : ofType .mysql (.varchar length) = .ok ⟨.longText, .varchar⟩ := by
    rw [ofType, writes]
  apply returns_plain ((Descriptor.ofType .longVarchar "LONGTEXT").withSize Driver.unlimited)
    (.ofVarchar Driver.unlimited) written rfl rfl rfl
  cases length <;> simp [holds, ColumnMapping.ofVarchar, Driver.unlimited, maxVarcharLength]

theorem returns_varchar (mode : Mode) (length : Option Nat) : Returns mode (.varchar length) := by
  cases mode with
  | mysql =>
    cases length with
    | none => exact returns_longText rfl
    | some length =>
      by_cases long : WriteMapping.mediumTextBytes < length
      · apply returns_longText
        simp only [WriteMapping.varcharType, if_pos long]
      by_cases tiny : length ≤ WriteMapping.tinyTextBytes
      · have writes : WriteMapping.varcharType .mysql (some length) = .tinyText := by
          simp only [WriteMapping.varcharType, if_neg long, if_pos tiny]
        exact returns_band writes rfl rfl rfl tiny (by decide)
      by_cases plain : length ≤ WriteMapping.textBytes
      · have writes : WriteMapping.varcharType .mysql (some length) = .text := by
          simp only [WriteMapping.varcharType, if_neg long, if_neg tiny, if_pos plain]
        exact returns_band writes rfl rfl rfl plain (by decide)
      · have writes : WriteMapping.varcharType .mysql (some length) = .mediumText := by
          simp only [WriteMapping.varcharType, if_neg long, if_neg tiny, if_neg plain]
        exact returns_band writes rfl rfl rfl (Nat.le_of_not_lt long) (by decide)
  | oracle =>
    cases length with
    | none => exact returns_clob rfl rfl
    | some length =>
      by_cases short : length ≤ WriteMapping.oracleVarcharBytes / WriteMapping.bytesPerChar
      · have known : length ≤ maxVarcharLength := Nat.le_trans short (by decide)
        have bound : ∀ number ∈ [length], number < twoTo 31 := by
          apply numbers_bound (show maxVarcharLength < twoTo 31 by decide)
          simpa using known
        have writes : WriteMapping.varcharType .oracle (some length) = .varcharOfChars length := by
          simp only [WriteMapping.varcharType, if_pos short]
        apply returns_of ⟨.varcharOfChars length, .varchar⟩
          ((Descriptor.ofType .varchar "VARCHAR2").withSize length) (.ofVarchar length) _ bound rfl rfl
        · rw [ColumnMapping.ofVarchar_natCast known]
          exact holds_self ..
        · rw [ofType, writes]
      · have writes : WriteMapping.varcharType .oracle (some length) = .clob := by
          simp only [WriteMapping.varcharType, if_neg short]
        have writes : ofType .oracle (.varchar (some length)) = .ok ⟨.clob, .varchar⟩ := by
          rw [ofType, writes]
        exact returns_clob writes (by simp [holds])

theorem found_boolean (mode : Mode) :
    ∃ written descriptor mapping, ofType mode .boolean = .ok written ∧
      describe? mode written.dataType.sql = some descriptor ∧
      resolve mode .default [] descriptor = .ok (some mapping) ∧
      (mapping.logicalType = .tinyInt ∨ mapping.logicalType = .decimal 1 0) := by
  cases mode with
  | mysql =>
    exact ⟨⟨.boolean, .boolean⟩, (Descriptor.ofType .tinyInt "TINYINT").withSize 1, .ofTinyInt, rfl,
      describe?_sql .mysql .boolean (by simp [numbers]), rfl, .inl rfl⟩
  | oracle =>
    exact ⟨⟨WriteMapping.wholeNumber 1, .boolean⟩,
      ((Descriptor.ofType .numeric "NUMBER").withSize 1).withDigits 0, .ofDecimal 1 0 none, rfl,
      describe?_sql .oracle (WriteMapping.wholeNumber 1) (by decide), rfl, .inr rfl⟩

theorem returns_of_hasColumn (mode : Mode) (type : LogicalType) (valid : type.Valid)
    (column : type.HasColumn) : Returns mode type := by
  cases type with
  | decimal precision scale =>
    obtain ⟨positive, known, fits⟩ := valid
    exact returns_decimal mode positive known fits
  | char length => exact returns_char mode valid
  | varchar length => exact returns_varchar mode length
  | time precision => exact returns_time mode precision
  | timestamp precision => exact returns_timestamp mode precision
  | timestampWithTimeZone precision => exact returns_zoned mode precision
  | timeWithTimeZone precision => exact column.elim
  | uuid => exact column.elim
  | boolean =>
    obtain ⟨written, descriptor, mapping, writes, described, resolved, number⟩ := found_boolean mode
    refine ⟨written, descriptor, mapping, writes, described, resolved, ?_⟩
    rcases number with number | number
    all_goals
      rw [number]
      rfl
  | tinyInt =>
    cases mode with
    | mysql => exact returns_plain (.ofType .tinyInt "TINYINT") .ofTinyInt rfl rfl rfl rfl rfl
    | oracle => exact returns_whole rfl (by decide) (by decide) rfl
  | smallInt =>
    cases mode with
    | mysql => exact returns_plain (.ofType .smallInt "SMALLINT") .ofSmallInt rfl rfl rfl rfl rfl
    | oracle => exact returns_whole rfl (by decide) (by decide) rfl
  | integer =>
    cases mode with
    | mysql => exact returns_plain (.ofType .integer "INT") .ofInteger rfl rfl rfl rfl rfl
    | oracle => exact returns_whole rfl (by decide) (by decide) rfl
  | bigInt =>
    cases mode with
    | mysql => exact returns_plain (.ofType .bigInt "BIGINT") .ofBigInt rfl rfl rfl rfl rfl
    | oracle => exact returns_whole rfl (by decide) (by decide) rfl
  | real =>
    cases mode with
    | mysql =>
      exact returns_plain (.ofType .real "FLOAT") ⟨.real, .real, .real, .disabled⟩ rfl rfl rfl rfl rfl
    | oracle =>
      exact returns_plain (.ofType .binaryFloat "BINARY_FLOAT") ⟨.real, .real, .real, .disabled⟩
        rfl rfl rfl rfl rfl
  | double =>
    cases mode with
    | mysql =>
      exact returns_plain (.ofType .double "DOUBLE") ⟨.double, .double, .double, .full⟩
        rfl rfl rfl rfl rfl
    | oracle =>
      exact returns_plain (.ofType .binaryDouble "BINARY_DOUBLE") ⟨.double, .double, .double, .full⟩
        rfl rfl rfl rfl rfl
  | varbinary =>
    have reports : reported? mode "blob" 0 0 = some (.ofType .blob "BLOB") := by cases mode <;> rfl
    exact returns_plain _ ⟨.varbinary, .varbinary, .varbinary, .disabled⟩ rfl rfl reports rfl
      (holds_self ..)
  | json =>
    have reports : reported? mode "json" 0 0 = some (.ofType .longVarchar "JSON") := by
      cases mode <;> rfl
    exact returns_plain _ ⟨.json, .json, .varchar, .disabled⟩ rfl rfl reports rfl (holds_self ..)
  | date =>
    cases mode with
    | mysql =>
      exact returns_plain ((Descriptor.ofType .date "DATE").withSize 10) (.ofDate .mysql)
        rfl rfl rfl rfl rfl
    | oracle =>
      exact returns_plain ((Descriptor.ofType .timestamp "DATE").withSize 19) (.ofDate .oracle)
        rfl rfl rfl rfl rfl

/-- In both modes, every type with a column is written to one, and the column that the driver then
describes is found again with a type that holds all values of the first. -/
theorem created_column_holds (mode : Mode) (type : LogicalType) (valid : type.Valid)
    (column : type.HasColumn) :
    ∃ written descriptor mapping, ofType mode type = .ok written ∧
      describe? mode written.dataType.sql = some descriptor ∧
      resolve mode .default [] descriptor = .ok (some mapping) ∧
      type.holds mode mapping.logicalType = true :=
  returns_of_hasColumn mode type valid column

/-- A text that needs the third of the four sizes of text. -/
theorem created_column_holds_mediumText :
    ∃ written descriptor mapping, ofType .mysql (.varchar (some 65536)) = .ok written ∧
      describe? .mysql written.dataType.sql = some descriptor ∧
      resolve .mysql .default [] descriptor = .ok (some mapping) ∧
      LogicalType.holds .mysql (.varchar (some 65536)) mapping.logicalType = true :=
  created_column_holds .mysql (.varchar (some 65536)) (show 65536 < twoTo 32 by decide) trivial

end LogicalType

end TypeBridge
