import TypeBridge.Column.WriteMapping
import TypeBridge.Proofs.Column.Decoding
import TypeBridge.Proofs.Column.Rules
import TypeBridge.Proofs.Decimal.Fit
import TypeBridge.Proofs.Temporal.RoundTrip

/-!
Reading and writing agree on a column. What its strategy decodes is taken by the strategies of writing,
its own and that of a new column of its type; and a value that is bound as it is decodes, once it is
written back, to what it was.
-/
namespace TypeBridge

inductive WriteStrategy.Takes : WriteStrategy → LogicalValue → Prop where
  | boolean (value : Bool) : Takes .boolean (.boolean value)
  | tinyInt (value : Int64) : Takes .tinyInt (.long value)
  | smallInt (value : Int64) : Takes .smallInt (.long value)
  | integer (value : Int64) : Takes .integer (.long value)
  | bigInt (value : Int64) : Takes .bigInt (.long value)
  | real (value : Binary32) : Takes .real (.real value)
  | double (value : Binary64) : Takes .double (.double value)
  | decimal (precision scale : Nat) (value : Decimal) : Takes (.decimal precision scale) (.decimal value)
  | char (text : String) : Takes .char (.text text)
  | varchar (text : String) : Takes .varchar (.text text)
  | varbinary (bytes : List UInt8) : Takes .varbinary (.bytes bytes)
  | isoDate (day : Int64) : Takes .isoDate (.date day)
  | formattedDate (day : Int64) : Takes .formattedDate (.date day)
  | timestampToDate (micros : Int64) : Takes .timestampToDate (.shortTimestamp micros)
  | time (precision : Nat) (picos : Int64) : Takes (.time precision) (.time picos)
  | timestamp (precision : Nat) (micros : Int64) : Takes (.timestamp precision) (.shortTimestamp micros)
  | longTimestamp (precision : Nat) (value : LongTimestamp) :
      Takes (.longTimestamp precision) (.longTimestamp value)
  | formattedTimestamp (precision : Nat) (micros : Int64) :
      Takes (.formattedTimestamp precision) (.shortTimestamp micros)
  | formattedLongTimestamp (precision : Nat) (value : LongTimestamp) :
      Takes (.formattedLongTimestamp precision) (.longTimestamp value)
  | shortZonedTimestamp (packed : Int64) : Takes .shortZonedTimestamp (.shortZonedTimestamp packed)
  | longZonedTimestamp (value : LongZonedTimestamp) :
      Takes .longZonedTimestamp (.longZonedTimestamp value)

/-- The outcome of writing a value that was not refused for its kind. -/
def WellShaped {α : Type} (result : Except Error α) : Prop :=
  ∀ strategy kind, result ≠ .error (.invalidValue (.unwritable strategy kind))

section

variable {α β : Type}

theorem wellShaped_ok (value : α) : WellShaped (.ok value : Except Error α) := by
  intro _ _ h
  cases h

theorem wellShaped_bind {first : Except Error α} {next : α → Except Error β}
    (former : WellShaped first) (later : ∀ value, WellShaped (next value)) :
    WellShaped (first >>= next) := by
  cases first with
  | ok value => exact later value
  | error cause =>
    intro strategy kind h
    cases h
    exact former strategy kind rfl

theorem wellShaped_map {first : Except Error α} (function : α → β) (former : WellShaped first) :
    WellShaped (function <$> first) := by
  cases first with
  | ok value => exact wellShaped_ok _
  | error cause =>
    intro strategy kind h
    cases h
    exact former strategy kind rfl

theorem wellShaped_orRange (fault : RangeFault) (found : Option α) :
    WellShaped (Temporal.orRange fault found) := by
  cases found with
  | some value => exact wellShaped_ok value
  | none =>
    intro _ _ h
    cases h

end

theorem wellShaped_checkInteger (bits : Nat) (type : String) (value : Int64) :
    WellShaped (checkInteger bits type value) := by
  unfold checkInteger
  split <;> intro _ _ h <;> cases h

theorem wellShaped_fitDecimal (value : Decimal) (precision scale : Nat)
    (rounding : Option RoundingMode) : WellShaped (fitDecimal value precision scale rounding) := by
  unfold fitDecimal
  split <;> intro _ _ h <;> cases h

theorem wellShaped_timeOfPicos (picos : Int) (precision : Nat) :
    WellShaped (Temporal.timeOfPicos picos precision) := by
  unfold Temporal.timeOfPicos
  split
  · exact wellShaped_orRange _ _
  · intro _ _ h
    cases h

theorem wellShaped_wholeSecond (micros : Int) :
    WellShaped (Temporal.wholeSecondDateTime micros) := by
  unfold Temporal.wholeSecondDateTime
  split
  · exact wellShaped_orRange _ _
  · intro _ _ h
    cases h

theorem wellShaped_encode {strategy : WriteStrategy} {value : LogicalValue}
    (taken : strategy.Takes value) : WellShaped (strategy.encode value) := by
  cases taken with
  | tinyInt | smallInt | integer => exact wellShaped_map _ (wellShaped_checkInteger _ _ _)
  | decimal => exact wellShaped_map _ (wellShaped_fitDecimal _ _ _ _)
  | isoDate | formattedDate =>
    exact wellShaped_bind (wellShaped_orRange _ _) fun _ => wellShaped_ok _
  | timestampToDate =>
    exact wellShaped_bind (wellShaped_wholeSecond _) fun _ => wellShaped_ok _
  | time => exact wellShaped_map _ (wellShaped_timeOfPicos _ _)
  | timestamp | longTimestamp | formattedTimestamp | formattedLongTimestamp | shortZonedTimestamp
  | longZonedTimestamp => exact wellShaped_map _ (wellShaped_orRange _ _)
  | _ => exact wellShaped_ok _

namespace ColumnMapping

/-- Pairs of a strategy of reading and one of writing for the same kind of values. -/
inductive Paired : ReadStrategy → WriteStrategy → Prop where
  | boolean : Paired .boolean .boolean
  | tinyInt : Paired .tinyInt .tinyInt
  | smallInt : Paired .smallInt .smallInt
  | integer : Paired .integer .integer
  | bigInt : Paired .bigInt .bigInt
  | real : Paired .real .real
  | double : Paired .double .double
  | decimal {precision scale : Nat} {rounding : Option RoundingMode} :
      Paired (.decimal precision scale rounding) (.decimal precision scale)
  | char : Paired .char .char
  | varchar : Paired .varchar .varchar
  | json : Paired .json .varchar
  | varbinary : Paired .varbinary .varbinary
  | isoDate : Paired .date .isoDate
  | dateAsTimestamp : Paired .dateAsTimestamp .timestampToDate
  | time {precision stored : Nat} : Paired (.time precision) (.time stored)
  | timestamp {precision : Nat} : Paired (.timestamp precision) (.timestamp precision)
  | timestampToDate {precision : Nat} : Paired (.timestamp precision) .timestampToDate
  | formattedTimestamp {precision : Nat} :
      Paired (.timestamp precision) (.formattedTimestamp precision)
  | formattedLongTimestamp {precision stored : Nat} :
      Paired (.longTimestamp precision) (.formattedLongTimestamp stored)
  | shortZonedTimestamp : Paired .shortZonedTimestamp .shortZonedTimestamp
  | longZonedTimestamp : Paired .longZonedTimestamp .longZonedTimestamp

theorem takes_of_paired {read : ReadStrategy} {write : WriteStrategy} (paired : Paired read write)
    {value : BackendValue} {decoded : LogicalValue} (decodes : read.Decodes value decoded) :
    write.Takes decoded := by
  cases paired <;> cases decodes <;> constructor

variable {mode : Mode} {session : Session} {mapping : ColumnMapping}

theorem paired_timestamp {precision : Nat} (stored : precision ≤ mode.maxPrecision) :
    Paired (timestampOf mode precision).read (timestampOf mode precision).write ∧
      Paired (timestampOf mode precision).read (WriteMapping.ofTimestamp mode precision).write := by
  cases mode with
  | mysql =>
    have short : precision ≤ Temporal.maxShortPrecision := stored
    simp only [timestampOf, timestampWrite, WriteMapping.ofTimestamp, if_pos short, if_pos stored]
    exact ⟨.timestamp, .timestamp⟩
  | oracle =>
    simp only [timestampOf, timestampWrite, WriteMapping.ofTimestamp]
    by_cases short : precision ≤ Temporal.maxShortPrecision
    · simp only [if_pos short]
      split
      · exact ⟨.formattedTimestamp, .timestampToDate⟩
      · exact ⟨.formattedTimestamp, .formattedTimestamp⟩
    · have fraction : precision ≠ 0 := fun none => short (none ▸ Nat.zero_le _)
      simp only [if_neg short, if_neg fraction]
      exact ⟨.formattedLongTimestamp, .formattedLongTimestamp⟩

theorem paired_zoned (precision : Nat) :
    Paired (zonedOf precision).read (zonedOf precision).write ∧
      Paired (zonedOf precision).read (WriteMapping.ofZonedTimestamp precision).write := by
  simp only [zonedOf, WriteMapping.ofZonedTimestamp]
  split
  · exact ⟨.shortZonedTimestamp, .shortZonedTimestamp⟩
  · exact ⟨.longZonedTimestamp, .longZonedTimestamp⟩

theorem paired_of_family (family : Family mode session mapping) :
    Paired mapping.read mapping.write ∧ ∃ written,
      WriteMapping.ofType mode mapping.logicalType = .ok written ∧
        Paired mapping.read written.write := by
  cases family with
  | boolean => exact ⟨.boolean, _, rfl, .boolean⟩
  | tinyInt => exact ⟨.tinyInt, _, rfl, .tinyInt⟩
  | smallInt => exact ⟨.smallInt, _, rfl, .smallInt⟩
  | integer => exact ⟨.integer, _, rfl, .integer⟩
  | bigInt => exact ⟨.bigInt, _, rfl, .bigInt⟩
  | real => exact ⟨.real, _, rfl, .real⟩
  | double => exact ⟨.double, _, rfl, .double⟩
  | decimal | openDecimal => exact ⟨.decimal, _, rfl, .decimal⟩
  | char => exact ⟨.char, _, rfl, .char⟩
  | varchar | largeText => exact ⟨.varchar, _, rfl, .varchar⟩
  | varbinary => exact ⟨.varbinary, _, rfl, .varbinary⟩
  | json => exact ⟨.json, _, rfl, .json⟩
  | date =>
    cases mode with
    | mysql => exact ⟨.isoDate, _, rfl, .isoDate⟩
    | oracle => exact ⟨.dateAsTimestamp, _, rfl, .dateAsTimestamp⟩
  | time => exact ⟨.time, _, rfl, .time⟩
  | timestamp stored =>
    obtain ⟨own, new⟩ := paired_timestamp stored
    exact ⟨own, _, rfl, new⟩
  | @zoned precision utc stored =>
    obtain ⟨own, new⟩ := paired_zoned precision
    refine ⟨own, WriteMapping.ofZonedTimestamp precision, ?_, new⟩
    rw [zonedOf_logicalType]
    rfl

end ColumnMapping

end TypeBridge
