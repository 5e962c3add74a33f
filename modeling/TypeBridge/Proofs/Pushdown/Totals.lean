import TypeBridge.Connector.Basic
import TypeBridge.Proofs.Column.Dependence
import TypeBridge.Proofs.Pushdown.Aggregates

/-!
Counts and sums under the settings of a connector. Their results are read under descriptors of the rules'
own, which pass through the same resolution as columns: a result is read as a number unless its type code is
among those that are forced to text.
-/
namespace TypeBridge

/-- Driver values of a column of numbers, by the type of the column. -/
inductive BackendValue.Fills : BackendValue → DriverType → Prop where
  | null (bound : NullType) (type : DriverType) : Fills (.null bound) type
  | word (value : Int64) : Fills (.long value) .bigInt
  | decimal (value : Decimal) : Fills (.decimal value) .numeric
  | whole (value : Int64) : Fills (.long value) .numeric
  | double (value : Binary64) : Fills (.double value) .double
  | float (value : Binary32) : Fills (.float value) .double

/-- The outcome of reading a value that was not refused for its kind. -/
def Readable (result : Except Error LogicalValue) : Prop :=
  ∀ strategy kind, result ≠ .error (.invalidValue (.unreadable strategy kind))

theorem readable_ok (value : LogicalValue) : Readable (.ok value) := by
  intro _ _ h
  cases h

theorem readable_fitDecimal (value : Decimal) (precision scale : Nat)
    (rounding : Option RoundingMode) :
    Readable (LogicalValue.decimal <$> fitDecimal value precision scale rounding) := by
  unfold fitDecimal
  split <;> intro _ _ h <;> cases h

namespace AggregateCall

open LogicalType (maxDecimalPrecision)

variable {mode : Mode} {session : Session} {connector : Connector} {call : AggregateCall}
  {expression : AggregateExpression} {handle : Descriptor} {type : LogicalType}

/-- The descriptors of the rules' own, with the types of the numbers that are read under them. -/
inductive Totals : Descriptor → LogicalType → Prop where
  | bigInt : Totals bigIntHandle .bigInt
  | double : Totals doubleHandle .double
  | decimal {scale : Nat} (known : scale ≤ maxDecimalPrecision) :
      Totals (decimalHandle maxDecimalPrecision scale) (.decimal maxDecimalPrecision scale)

theorem totals_of_sum
    (known : ∀ precision scale, type = .decimal precision scale → scale ≤ maxDecimalPrecision)
    (summed : sumHandle? type = some handle) :
    ∃ total, type.summed? = some total ∧ Totals handle total := by
  cases type with
  | decimal precision scale =>
    cases summed
    exact ⟨_, rfl, .decimal (known precision scale rfl)⟩
  | tinyInt | smallInt | integer | bigInt =>
    cases summed
    exact ⟨_, rfl, .bigInt⟩
  | real | double =>
    cases summed
    exact ⟨_, rfl, .double⟩
  | _ => cases summed

theorem totals_of_rewrites (total : call.function = .count ∨ call.function = .sum)
    (known : call.function = .sum → ∀ column ∈ call.arguments, ∀ precision scale,
      column.type = .decimal precision scale → scale ≤ maxDecimalPrecision)
    (rewrites : Rewrites mode call expression) :
    ∃ type, call.resultType? = some type ∧ Totals expression.resultType type := by
  cases rewrites with
  | rows | values => exact ⟨_, rfl, .bigInt⟩
  | sum summed => exact totals_of_sum (known rfl _ (List.mem_singleton_self _)) summed
  | castAverage => rcases total with count | sum <;> contradiction
  | kept keeps => rcases total with rfl | rfl <;> exact keeps.elim
  | covariance covariant => rcases total with rfl | rfl <;> cases covariant

def totalMapping : LogicalType → ColumnMapping
  | .decimal precision scale => .ofDecimal precision scale none
  | .double => ⟨.double, .double, .double, .full⟩
  | _ => .ofBigInt

theorem resolve_totals (mode : Mode) (session : Session) (totals : Totals handle type) :
    ColumnMapping.resolve mode session [] handle = .ok (some (totalMapping type)) := by
  cases totals with
  | bigInt | double => rfl
  | decimal known => exact resolve_decimalHandle mode session known

theorem totalMapping_logicalType (totals : Totals handle type) : (totalMapping type).logicalType = type := by
  cases totals <;> rfl

theorem resolve_totals_forced {forced : List Int} (totals : Totals handle type)
    (taken : handle.typeCode ∈ forced) :
    ColumnMapping.resolve mode session forced handle = .ok (some .forcedVarchar) := by
  obtain ⟨name, named⟩ : ∃ name, handle.typeName = some name := by
    cases totals <;> exact ⟨_, rfl⟩
  rw [ColumnMapping.resolve_named named, if_pos taken]

theorem readable_totals (totals : Totals handle type) {value : BackendValue}
    (fills : value.Fills handle.driverType) : Readable ((totalMapping type).read.decode value) := by
  cases totals with
  | bigInt =>
    have fills : value.Fills .bigInt := fills
    cases fills <;> exact readable_ok _
  | double =>
    have fills : value.Fills .double := fills
    cases fills <;> exact readable_ok _
  | decimal =>
    have fills : value.Fills .numeric := fills
    cases fills with
    | null => exact readable_ok _
    | decimal | whole => exact readable_fitDecimal _ _ _ _

theorem not_readable_forced {driver : DriverType} {value : BackendValue} (fills : value.Fills driver)
    (present : value.isNull = false) :
    ¬Readable (ColumnMapping.forcedVarchar.read.decode value) := by
  intro readable
  cases fills with
  | null => cases present
  | _ => exact readable _ _ rfl

/-- A count or a sum is read as the number that it is when the code of its type is not forced to text. When
it is forced, the result is text to the connector, like any column of that type, and numbers are refused. -/
theorem total_read_unless_forced (total : call.function = .count ∨ call.function = .sum)
    (known : call.function = .sum → ∀ column ∈ call.arguments, ∀ precision scale,
      column.type = .decimal precision scale → scale ≤ maxDecimalPrecision)
    (rewritten : connector.aggregate call = .ok (some expression)) :
    (expression.resultType.typeCode ∉ connector.forced →
      ∃ mapping, connector.columnMapping expression.resultType = .ok (some mapping) ∧
        Totals expression.resultType mapping.logicalType ∧
        call.resultType? = some mapping.logicalType ∧
        ∀ value : BackendValue, value.Fills expression.resultType.driverType →
          Readable (mapping.read.decode value)) ∧
    (expression.resultType.typeCode ∈ connector.forced →
      connector.columnMapping expression.resultType = .ok (some .forcedVarchar) ∧
        ∀ value : BackendValue, value.Fills expression.resultType.driverType → value.isNull = false →
          ¬Readable (ColumnMapping.forcedVarchar.read.decode value)) := by
  obtain ⟨type, typed, totals⟩ := totals_of_rewrites total known (rewrite_eq_some.mp rewritten)
  constructor
  · intro free
    have unforced : connector.columnMapping expression.resultType =
        .ok (some (totalMapping type)) := by
      unfold Connector.columnMapping
      rw [ColumnMapping.resolve_forced (iff_of_false free List.not_mem_nil)]
      exact resolve_totals _ _ totals
    refine ⟨totalMapping type, unforced, ?_, ?_, fun value => readable_totals totals⟩
    · rwa [totalMapping_logicalType totals]
    · rwa [totalMapping_logicalType totals]
  · intro taken
    exact ⟨resolve_totals_forced totals taken, fun value => not_readable_forced⟩

/-- A count next to a forced code, and a sum of prices whose code is forced. -/
theorem total_read_unless_forced_prices :
    let connector : Connector := ⟨.mysql, .default, [2, 12]⟩
    let price : ColumnRef := ⟨"price", .decimal 10 2, .ofType .decimal "DECIMAL"⟩
    connector.aggregate ⟨.count, [price], true⟩ =
        .ok (some ⟨"count(DISTINCT `price`)", bigIntHandle⟩) ∧
      (∃ mapping, connector.columnMapping bigIntHandle = .ok (some mapping) ∧
        mapping.logicalType = .bigInt ∧ Readable (mapping.read.decode (.long 5))) ∧
      connector.aggregate ⟨.sum, [price], false⟩ =
        .ok (some ⟨"sum(`price`)", decimalHandle 38 2⟩) ∧
      connector.columnMapping (decimalHandle 38 2) = .ok (some .forcedVarchar) := by
  refine ⟨rfl, ?counted, rfl, ?summed⟩
  case counted =>
    obtain ⟨mapping, mapped, -, typed, read⟩ :=
      (@total_read_unless_forced ⟨.mysql, .default, [2, 12]⟩
        ⟨.count, [⟨"price", .decimal 10 2, .ofType .decimal "DECIMAL"⟩], true⟩
        ⟨"count(DISTINCT `price`)", bigIntHandle⟩ (.inl rfl) nofun rfl).1 (by decide)
    exact ⟨mapping, mapped, (Option.some.inj typed).symm, read _ (.word 5)⟩
  case summed =>
    have scale : ∀ precision scale, LogicalType.decimal 10 2 = .decimal precision scale →
        scale ≤ maxDecimalPrecision := by
      rintro _ _ ⟨⟩
      decide
    exact ((@total_read_unless_forced ⟨.mysql, .default, [2, 12]⟩
      ⟨.sum, [⟨"price", .decimal 10 2, .ofType .decimal "DECIMAL"⟩], false⟩
      ⟨"sum(`price`)", decimalHandle 38 2⟩ (.inr rfl)
      (fun _ => List.forall_mem_singleton.mpr scale) rfl).2 (by decide)).1

/-- A connector that reads whole numbers as text refuses the number of rows, which it has asked for; and no
type has the scale of a sum of decimals of 39 places. -/
theorem forced_count_refused :
    let connector : Connector := ⟨.mysql, .default, [-5]⟩
    let column : ColumnRef := ⟨"x", .decimal 39 39, .ofType .decimal "DECIMAL"⟩
    (connector.session.defaultScale ≤ maxDecimalPrecision ∧
        connector.aggregate ⟨.count, [], false⟩ = .ok (some ⟨"count(*)", bigIntHandle⟩) ∧
        connector.columnMapping bigIntHandle = .ok (some .forcedVarchar) ∧
        ColumnMapping.forcedVarchar.logicalType.isNumeric = false ∧
        ColumnMapping.forcedVarchar.read.decode (.long 5) =
          .error (.invalidValue (.unreadable "varchar" "long"))) ∧
      connector.aggregate ⟨.sum, [column], false⟩ =
        .ok (some ⟨"sum(`x`)", decimalHandle 38 39⟩) ∧
      connector.columnMapping (decimalHandle 38 39) =
        .error (.metadataContract (.decimal 38 39 (decimalHandle 38 39))) :=
  ⟨⟨Nat.zero_le _, rfl, rfl, rfl, rfl⟩, rfl, rfl⟩

end AggregateCall

end TypeBridge
