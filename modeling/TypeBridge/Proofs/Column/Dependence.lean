import TypeBridge.Proofs.Column.Numbers
import TypeBridge.Proofs.Text.Spelling

/-!
What the resolution of a column depends on. A rule reads the codes forced to text only at the code of the
column, and the settings for decimals, the mode and the digits after the point only where its values need
them; of the type name it reads the letters and not their case. Two columns that a rule cannot tell apart
get the same mapping, or the same error, which shows each column in its own words.
-/
namespace TypeBridge

def ContractBreach.about (other : Descriptor) : ContractBreach → ContractBreach
  | .missingTypeName _ => .missingTypeName other
  | .missingSize _ => .missingSize other
  | .missingDigits _ => .missingDigits other
  | .decimal width scale _ => .decimal width scale other
  | .temporalPrecision precision mode => .temporalPrecision precision mode
  | .fractionalSecond micros => .fractionalSecond micros
  | .stated message => .stated message

def Error.about (other : Descriptor) : Error → Error
  | .metadataContract cause => .metadataContract (cause.about other)
  | error => error

namespace Descriptor

variable {descriptor other : Descriptor}

theorem requiredSize_about (size : other.columnSize = descriptor.columnSize) :
    other.requiredSize = descriptor.requiredSize.mapError (·.about other) := by
  unfold requiredSize
  rw [size]
  cases descriptor.columnSize <;> rfl

theorem requiredDigits_about (digits : other.decimalDigits = descriptor.decimalDigits) :
    other.requiredDigits = descriptor.requiredDigits.mapError (·.about other) := by
  unfold requiredDigits
  rw [digits]
  cases descriptor.decimalDigits <;> rfl

theorem requiredSize_eq_ok {size : Int} (h : descriptor.requiredSize = .ok size) :
    descriptor.columnSize = some size := by
  unfold requiredSize at h
  split at h <;> cases h
  assumption

end Descriptor

namespace ColumnMapping

open TypeBridge.Temporal

variable {mode : Mode} {session : Session} {forced : List Int} {descriptor other : Descriptor}
  {folded name : String}

/-- The width of a timestamp leaves its precision to the digits. -/
def IsNarrow (descriptor : Descriptor) : Prop := ∃ size ∈ descriptor.columnSize, size < timestampWidth

def IsNumeric (descriptor : Descriptor) : Prop :=
  descriptor.driverType = .numeric ∨ descriptor.driverType = .decimal

def ReadsSession (forced : List Int) (descriptor : Descriptor) (folded : String) : Prop :=
  descriptor.typeCode ∉ forced ∧ folded ∉ aliases ∧ IsNumeric descriptor

def ReadsMode (forced : List Int) (descriptor : Descriptor) (folded : String) : Prop :=
  descriptor.typeCode ∉ forced ∧
    ((folded = "date" ∨ folded = "datetime") ∨
      folded ∉ aliases ∧ (descriptor.driverType = .time ∨ descriptor.driverType = .timestamp))

def ReadsDigits (forced : List Int) (descriptor : Descriptor) (folded : String) : Prop :=
  descriptor.typeCode ∉ forced ∧
    (folded = "datetime" ∧ IsNarrow descriptor ∨
      folded ∉ aliases ∧
        (IsNumeric descriptor ∨ descriptor.driverType = .timestamp ∧ IsNarrow descriptor))

theorem resolve_named (named : descriptor.typeName = some name) :
    resolve mode session forced descriptor =
      if descriptor.typeCode ∈ forced then .ok (some forcedVarchar)
      else match ofTypeName? mode descriptor (Text.lowered name) with
        | some mapping => some <$> mapping
        | none => ofTypeCode mode session descriptor := by
  simp only [resolve, Descriptor.requiredTypeName, named, bind, Except.bind, List.contains_iff_mem]
  split
  · rfl
  · rcases ofTypeName? mode descriptor (Text.lowered name) with _ | (_ | _) <;> rfl

theorem not_mem_aliases (none : ofTypeName? mode descriptor folded = none) : folded ∉ aliases := by
  intro member
  simp only [aliases, List.mem_cons, List.not_mem_nil, or_false] at member
  rcases member with rfl | rfl | rfl | rfl | rfl | rfl | rfl | rfl | rfl | rfl <;> cases none

theorem resolve_forced {others : List Int}
    (agree : descriptor.typeCode ∈ forced ↔ descriptor.typeCode ∈ others) :
    resolve mode session forced descriptor = resolve mode session others descriptor := by
  simp only [resolve, List.contains_iff_mem, agree]

theorem ofTypeCode_session (session other : Session) (whole : ¬IsNumeric descriptor) :
    ofTypeCode mode session descriptor = ofTypeCode mode other descriptor := by
  unfold ofTypeCode
  split
  case h_10 code => exact absurd (.inl code) whole
  case h_11 code => exact absurd (.inr code) whole
  all_goals rfl

theorem resolve_session (named : descriptor.typeName = some name) (session other : Session)
    (unread : ¬ReadsSession forced descriptor (Text.lowered name)) :
    resolve mode session forced descriptor = resolve mode other forced descriptor := by
  rw [resolve_named named, resolve_named named]
  split
  next => rfl
  next free =>
    split
    next => rfl
    next none =>
      apply ofTypeCode_session
      intro numeric
      exact unread ⟨free, not_mem_aliases none, numeric⟩

theorem ofTypeName?_mode (mode other : Mode) (timeless : folded ≠ "date")
    (undated : folded ≠ "datetime") :
    ofTypeName? mode descriptor folded = ofTypeName? other descriptor folded := by
  unfold ofTypeName?
  split
  case h_6 => exact absurd rfl timeless
  case h_10 => exact absurd rfl undated
  all_goals rfl

theorem ofTypeCode_mode (mode other : Mode) (timeless : descriptor.driverType ≠ .time)
    (undated : descriptor.driverType ≠ .timestamp) :
    ofTypeCode mode session descriptor = ofTypeCode other session descriptor := by
  unfold ofTypeCode
  split
  case h_22 code => exact absurd code timeless
  case h_23 code => exact absurd code undated
  all_goals rfl

theorem resolve_mode (named : descriptor.typeName = some name) (mode other : Mode)
    (unread : ¬ReadsMode forced descriptor (Text.lowered name)) :
    resolve mode session forced descriptor = resolve other session forced descriptor := by
  rw [resolve_named named, resolve_named named]
  split
  next => rfl
  next free =>
    have undated : ¬(Text.lowered name = "date" ∨ Text.lowered name = "datetime") :=
      fun dated => unread ⟨free, .inl dated⟩
    rw [not_or] at undated
    rw [ofTypeName?_mode mode other undated.1 undated.2]
    split
    next => rfl
    next none =>
      have plain := not_mem_aliases none
      exact ofTypeCode_mode mode other (fun code => unread ⟨free, .inr ⟨plain, .inl code⟩⟩)
        (fun code => unread ⟨free, .inr ⟨plain, .inr code⟩⟩)

theorem timePrecision_agree {mode other : Mode} {size : Int} {left right : Nat}
    (found : timePrecision mode size = .ok left) (also : timePrecision other size = .ok right) :
    left = right := by
  unfold timePrecision verifyPrecision at found also
  grind

theorem resolve_time (named : descriptor.typeName = some name) (mode other : Mode)
    (timed : descriptor.driverType = .time) (timeless : Text.lowered name ≠ "date")
    (undated : Text.lowered name ≠ "datetime") {left right : Option ColumnMapping}
    (found : resolve mode session forced descriptor = .ok left)
    (also : resolve other session forced descriptor = .ok right) : left = right := by
  rw [resolve_named named] at found also
  split at found
  next known =>
    rw [if_pos known] at also
    exact Except.ok.inj (found.symm.trans also)
  next free =>
    rw [if_neg free, ← ofTypeName?_mode mode other timeless undated] at also
    cases rule : ofTypeName? mode descriptor (Text.lowered name) with
    | some mapping =>
      simp only [rule] at found also
      exact Except.ok.inj (found.symm.trans also)
    | none =>
      -- Both runs read the same width, so only the number of digits that a mode stores can tell them apart.
      simp only [rule, ofTypeCode, timed, ofTime_eq] at found also
      obtain ⟨size, sized, found⟩ := bind_eq_ok.mp found
      obtain ⟨same, sizedToo, also⟩ := bind_eq_ok.mp also
      cases sized.symm.trans sizedToo
      obtain ⟨mapping, timed, found⟩ := bind_eq_ok.mp found
      obtain ⟨mappingToo, timedToo, also⟩ := bind_eq_ok.mp also
      obtain ⟨precision, digits, rfl⟩ := map_eq_ok.mp timed
      obtain ⟨precisionToo, digitsToo, rfl⟩ := map_eq_ok.mp timedToo
      cases timePrecision_agree digits digitsToo
      exact Except.ok.inj (found.symm.trans also)

theorem verifyPrecision_about (precision : Int) :
    verifyPrecision mode precision = (verifyPrecision mode precision).mapError (·.about other) := by
  unfold verifyPrecision
  split <;> rfl

theorem timestampPrecision_about {size scale digits : Int}
    (same : digits = scale ∨ timestampWidth ≤ size) :
    timestampPrecision mode size digits =
      (timestampPrecision mode size scale).mapError (·.about other) := by
  unfold timestampPrecision
  split
  next narrow =>
    rw [same.resolve_right (Int.not_le.mpr narrow)]
    exact verifyPrecision_about _
  next =>
    split
    next => rfl
    next => exact verifyPrecision_about _

theorem ofTime_about (size : Int) :
    ofTime mode size = (ofTime mode size).mapError (·.about other) := by
  have same : timePrecision mode size = (timePrecision mode size).mapError (·.about other) := by
    unfold timePrecision
    split
    · rfl
    · exact verifyPrecision_about _
  rw [ofTime_eq, ← map_mapError, ← same]

theorem ofTimestamp_about {size scale digits : Int} (same : digits = scale ∨ timestampWidth ≤ size) :
    ofTimestamp mode size digits = (ofTimestamp mode size scale).mapError (·.about other) := by
  rw [ofTimestamp_eq, ofTimestamp_eq, ← map_mapError, ← timestampPrecision_about same]

theorem ofZonedTimestamp_about {size scale digits : Int}
    (same : digits = scale ∨ timestampWidth ≤ size) :
    ofZonedTimestamp mode size digits =
      (ofZonedTimestamp mode size scale).mapError (·.about other) := by
  rw [ofZonedTimestamp_eq, ofZonedTimestamp_eq, ← map_mapError, ← timestampPrecision_about same]

theorem ofNumeric_about (size : other.columnSize = descriptor.columnSize)
    (digits : other.decimalDigits = descriptor.decimalDigits) :
    ofNumeric session other = (ofNumeric session descriptor).mapError (·.about other) := by
  unfold ofNumeric
  apply mapError_bind (Descriptor.requiredSize_about size)
  intro precision _
  split
  · split <;> rfl
  · apply mapError_bind (Descriptor.requiredDigits_about digits)
    intro after _
    dsimp only
    split
    · split <;> rfl
    · split
      · split <;> rfl
      · rfl

theorem digits_or_wide {width : Int} (sized : descriptor.requiredSize = .ok width)
    (digits : IsNarrow descriptor → other.decimalDigits = descriptor.decimalDigits) :
    other.decimalDigits.getD 0 = descriptor.decimalDigits.getD 0 ∨ timestampWidth ≤ width := by
  by_cases narrow : width < timestampWidth
  · exact .inl (congrArg (·.getD 0) (digits ⟨width, Descriptor.requiredSize_eq_ok sized, narrow⟩))
  · exact .inr (Int.not_lt.mp narrow)

theorem ofTypeName?_about (size : other.columnSize = descriptor.columnSize)
    (digits : folded = "datetime" → IsNarrow descriptor →
      other.decimalDigits = descriptor.decimalDigits) :
    ofTypeName? mode other folded =
      (ofTypeName? mode descriptor folded).map (·.mapError (·.about other)) := by
  unfold ofTypeName?
  rw [size]
  split
  case h_10 =>
    refine congrArg some (mapError_bind (Descriptor.requiredSize_about size) fun width sized => ?_)
    exact ofTimestamp_about (digits_or_wide sized (digits rfl))
  all_goals rfl

theorem ofTypeCode_about (code : other.typeCode = descriptor.typeCode)
    (size : other.columnSize = descriptor.columnSize)
    (digits : IsNumeric descriptor ∨ descriptor.driverType = .timestamp ∧ IsNarrow descriptor →
      other.decimalDigits = descriptor.decimalDigits) :
    ofTypeCode mode session other = (ofTypeCode mode session descriptor).mapError (·.about other) := by
  have type : other.driverType = descriptor.driverType := congrArg DriverType.ofCode code
  unfold ofTypeCode
  rw [type]
  split
  case h_10 numeric => exact ofNumeric_about size (digits (.inl (.inl numeric)))
  case h_11 decimal => exact ofNumeric_about size (digits (.inl (.inr decimal)))
  case h_12 | h_13 | h_14 | h_15 | h_16 =>
    exact mapError_bind (Descriptor.requiredSize_about size) fun _ _ => rfl
  case h_22 =>
    apply mapError_bind (Descriptor.requiredSize_about size)
    intro width _
    exact mapError_bind (ofTime_about width) fun _ _ => rfl
  case h_23 timestamp =>
    apply mapError_bind (Descriptor.requiredSize_about size)
    intro width sized
    have same := digits_or_wide sized fun narrow => digits (.inr ⟨timestamp, narrow⟩)
    cases mode with
    | mysql => exact mapError_bind (ofZonedTimestamp_about same) fun _ _ => rfl
    | oracle => exact mapError_bind (ofTimestamp_about same) fun _ _ => rfl
  all_goals rfl

/-- Two descriptions of a column that differ in the case of the name's letters, or in digits that no rule
reads, are mapped alike. -/
theorem resolve_about {spelling : String} (named : descriptor.typeName = some name)
    (renamed : other.typeName = some spelling) (letters : Text.lowered spelling = Text.lowered name)
    (code : other.typeCode = descriptor.typeCode) (size : other.columnSize = descriptor.columnSize)
    (digits : ReadsDigits forced descriptor (Text.lowered name) →
      other.decimalDigits = descriptor.decimalDigits) :
    resolve mode session forced other =
      (resolve mode session forced descriptor).mapError (·.about other) := by
  rw [resolve_named named, resolve_named renamed, letters, code]
  split
  next => rfl
  next free =>
    rw [ofTypeName?_about size fun dated narrow => digits ⟨free, .inl ⟨dated, narrow⟩⟩]
    cases rule : ofTypeName? mode descriptor (Text.lowered name) with
    | some mapping => cases mapping <;> rfl
    | none =>
      have plain := not_mem_aliases rule
      exact ofTypeCode_about code size fun read => digits ⟨free, .inr ⟨plain, read⟩⟩

/-- Where two calls of the resolution differ in one input, their results differ only where a rule reads it.
Of the forced codes it reads whether that of the column is one; the settings for decimals, the mode and the
digits each have their columns. The letters of a name may be capitals or not. A time that both modes map is
mapped alike. -/
theorem resolve_depends (named : descriptor.typeName = some name) :
    (∀ mode session forced others,
      (descriptor.typeCode ∈ forced ↔ descriptor.typeCode ∈ others) →
        resolve mode session forced descriptor = resolve mode session others descriptor) ∧
    (∀ mode session other forced, ¬ReadsSession forced descriptor (Text.lowered name) →
      resolve mode session forced descriptor = resolve mode other forced descriptor) ∧
    (∀ mode other session forced, ¬ReadsMode forced descriptor (Text.lowered name) →
      resolve mode session forced descriptor = resolve other session forced descriptor) ∧
    (∀ mode other session forced, descriptor.driverType = .time → Text.lowered name ≠ "date" →
      Text.lowered name ≠ "datetime" → ∀ left right,
        resolve mode session forced descriptor = .ok left →
          resolve other session forced descriptor = .ok right → left = right) ∧
    (∀ mode session forced (spelling : String), Text.SameLetters spelling.toList name.toList →
      let respelled : Descriptor := { descriptor with typeName := some spelling }
      resolve mode session forced respelled =
        (resolve mode session forced descriptor).mapError (·.about respelled)) ∧
    ∀ mode session forced (digits : Option Int), ¬ReadsDigits forced descriptor (Text.lowered name) →
      let changed : Descriptor := { descriptor with decimalDigits := digits }
      resolve mode session forced changed =
        (resolve mode session forced descriptor).mapError (·.about changed) := by
  -- One case for each input that the two calls differ in.
  refine ⟨?codes, ?sessions, ?modes, ?times, ?letters, ?digits⟩
  case codes =>
    intro mode session forced others agree
    exact resolve_forced agree
  case sessions =>
    intro mode session other forced unread
    exact resolve_session named session other unread
  case modes =>
    intro mode other session forced unread
    exact resolve_mode named mode other unread
  case times =>
    intro mode other session forced timed timeless undated left right found also
    exact resolve_time named mode other timed timeless undated found also
  case letters =>
    intro mode session forced spelling same
    have letters : Text.lowered spelling = Text.lowered name :=
      congrArg String.ofList (Text.lowercase_congr same)
    exact resolve_about named rfl letters rfl rfl fun _ => rfl
  case digits =>
    intro mode session forced digits unread
    exact resolve_about named named rfl rfl rfl fun read => absurd read unread

/-- A timestamp whose width leaves its precision to the digits. The settings for decimals do not matter to
it, while the mode and the digits do. -/
theorem resolve_depends_narrowTimestamp :
    let narrow := ((Descriptor.ofType .timestamp "TIMESTAMP").withSize 18).withDigits 4
    let respelled : Descriptor := { narrow with typeName := some "TimeStamp" }
    resolve .oracle .default [12, -5] narrow = resolve .oracle .default [2] narrow ∧
      resolve .oracle ⟨.allowOverflow, 9, .halfEven⟩ [] narrow = resolve .oracle .default [] narrow ∧
      resolve .oracle .default [] respelled = .ok (some (timestampOf .oracle 4)) ∧
      resolve .mysql .default [] narrow = .ok (some (zonedOf 4)) ∧
      resolve .oracle .default [] (narrow.withDigits 9) = .ok (some (timestampOf .oracle 9)) ∧
      resolve .mysql .default [93] (narrow.withDigits 9) =
        (resolve .mysql .default [93] narrow).mapError (·.about (narrow.withDigits 9)) := by
  intro narrow respelled
  obtain ⟨codes, sessions, -, -, letters, digits⟩ := @resolve_depends narrow "TIMESTAMP" rfl
  have unread : ¬ReadsSession [] narrow (Text.lowered "TIMESTAMP") := by
    rintro ⟨-, -, numeric | decimal⟩
    · exact absurd numeric (by decide)
    · exact absurd decimal (by decide)
  have known : ¬ReadsDigits [93] narrow (Text.lowered "TIMESTAMP") :=
    fun read => read.1 (by decide)
  exact ⟨codes .oracle .default [12, -5] [2] (by decide), sessions .oracle _ _ [] unread,
    letters .oracle .default [] "TimeStamp" (by decide), rfl, rfl,
    digits .mysql .default [93] (some 9) known⟩

end ColumnMapping

end TypeBridge
