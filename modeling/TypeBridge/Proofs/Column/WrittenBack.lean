import Mathlib.Data.List.DropRight
import TypeBridge.Proofs.Column.Agreement

/-!
Decoding is stable under writing back. Where a parameter is bound as it is, the value that was decoded is
written as a driver value that decodes to it again. Rounding happens once: what was brought to the
precision of the column stands on its grid already.
-/
namespace TypeBridge

def LogicalValue.epochDay? : LogicalValue → Option Int
  | shortTimestamp micros => some (micros.toInt / 1000000 / 86400)
  | longTimestamp value => some (value.picos / 1000000000000 / 86400)
  | shortZonedTimestamp packed => some (Temporal.unpackMillis packed / 1000 / 86400)
  | longZonedTimestamp value => some (value.epochMillis.toInt / 1000 / 86400)
  | _ => none

/-- Whether the instant of a timestamp has a date. Rounding can carry one past the last. -/
def LogicalValue.InCalendar (value : LogicalValue) : Prop :=
  ∀ day ∈ value.epochDay?, Date.InCalendar day

/-- A leap second, as a time of day, has no place in the picoseconds of a day. -/
def BackendValue.IsLeapTime : BackendValue → Prop
  | time value => value.isLeap = true
  | _ => False

namespace ColumnMapping

/-- What `read` decodes, `write` gives back as a value that `read` decodes to the same. -/
def Stable (read : ReadStrategy) (write : WriteStrategy) : Prop :=
  ∀ value decoded, ¬value.IsLeapTime → read.Decodes value decoded → decoded.InCalendar →
    ∃ bound, write.encode decoded = .ok bound ∧ read.decode bound = .ok decoded

theorem stable_boolean : Stable .boolean .boolean := by
  intro value decoded _ decodes _
  have bit : ∀ truth : Bool, ReadStrategy.boolean.decode (.long (if truth then 1 else 0)) =
      .ok (.boolean truth) := by
    intro truth
    cases truth <;> rfl
  cases decodes <;> exact ⟨_, rfl, bit _⟩

theorem stable_checked {read : ReadStrategy} {write : WriteStrategy} {bits : Nat} {type : String}
    (decodes : ∀ value decoded, read.Decodes value decoded →
      ∃ word, decoded = .long word ∧ checkInteger bits type word = .ok word)
    (reads : ∀ word, read.decode (.long word) = LogicalValue.long <$> checkInteger bits type word)
    (writes : ∀ word, write.encode (.long word) = BackendValue.long <$> checkInteger bits type word) :
    Stable read write := by
  intro value decoded _ decoding _
  obtain ⟨word, rfl, checked⟩ := decodes value decoded decoding
  refine ⟨.long word, ?_, ?_⟩
  · rw [writes, checked]
    rfl
  · rw [reads, checked]
    rfl

theorem stable_tinyInt : Stable .tinyInt .tinyInt := by
  apply stable_checked _ (fun _ => rfl) (fun _ => rfl)
  intro value decoded decodes
  cases decodes with
  | tinyInt checked => exact ⟨_, rfl, (checkInteger_eq_ok.mp checked).1 ▸ checked⟩

theorem stable_smallInt : Stable .smallInt .smallInt := by
  apply stable_checked _ (fun _ => rfl) (fun _ => rfl)
  intro value decoded decodes
  cases decodes with
  | smallInt checked => exact ⟨_, rfl, (checkInteger_eq_ok.mp checked).1 ▸ checked⟩

theorem stable_integer : Stable .integer .integer := by
  apply stable_checked _ (fun _ => rfl) (fun _ => rfl)
  intro value decoded decodes
  cases decodes with
  | integer checked => exact ⟨_, rfl, (checkInteger_eq_ok.mp checked).1 ▸ checked⟩

theorem stable_decimal (precision scale : Nat) (rounding : Option RoundingMode) :
    Stable (.decimal precision scale rounding) (.decimal precision scale) := by
  intro value decoded _ decodes _
  cases decodes with
  | @decimal _ _ _ _ _ fitted _ fits =>
    have again (other : Option RoundingMode) : fitDecimal fitted precision scale other = .ok fitted :=
      fitDecimal_eq_ok.mpr (Decimal.fit_fit (fitDecimal_eq_ok.mp fits) other)
    refine ⟨.decimal fitted, ?_, ?_⟩
    · exact map_eq_ok.mpr ⟨fitted, again none, rfl⟩
    · exact map_eq_ok.mpr ⟨fitted, again rounding, rfl⟩

theorem stable_char : Stable .char .char := by
  intro value decoded _ decodes _
  cases decodes with
  | char text =>
    have again : Text.dropEndWhile (· == ' ') (Text.dropEndWhile (· == ' ') text.toList) =
        Text.dropEndWhile (· == ' ') text.toList := List.rdropWhile_idempotent _ _
    refine ⟨_, rfl, ?_⟩
    simp only [ReadStrategy.decode, String.toList_ofList, again]

theorem stable_time {precision : Nat} (fine : precision ≤ 9) :
    Stable (.time precision) (.time precision) := by
  intro value decoded plain decodes _
  cases decodes with
  | time _ time =>
    have notLeap : time.isLeap = false := Bool.eq_false_iff.mpr plain
    obtain ⟨within, onGrid⟩ := Temporal.picosOfDay_spec notLeap precision
    obtain ⟨again, given, same⟩ := Temporal.timeOfPicos_spec fine within onGrid
    have picos := Temporal.toInt_picosOfDay time precision
    refine ⟨.time again, ?_, ?_⟩
    · simp only [WriteStrategy.encode, picos, given]
      rfl
    · simp only [ReadStrategy.decode, same precision (Nat.le_refl _)]

theorem stable_timestamp {precision : Nat} (short : precision ≤ 6) :
    Stable (.timestamp precision) (.timestamp precision) := by
  intro value decoded _ decodes inside
  cases decodes with
  | timestamp counted =>
    obtain ⟨again, given, same⟩ := Temporal.dateTimeOfEpochMicros_spec short counted (inside _ rfl)
    exact ⟨.dateTime again, map_eq_ok.mpr ⟨_, given, rfl⟩, map_eq_ok.mpr ⟨_, same, rfl⟩⟩

theorem stable_shortZoned : Stable .shortZonedTimestamp .shortZonedTimestamp := by
  intro value decoded _ decodes inside
  cases decodes with
  | shortZonedTimestamp origin packs =>
    obtain ⟨again, given, same⟩ := Temporal.instantOfMillis_spec packs (inside _ rfl)
    exact ⟨.dateTimeOffset again, map_eq_ok.mpr ⟨_, given, rfl⟩, map_eq_ok.mpr ⟨_, same, rfl⟩⟩

theorem stable_longZoned : Stable .longZonedTimestamp .longZonedTimestamp := by
  intro value decoded _ decodes inside
  cases decodes with
  | longZonedTimestamp origin =>
    obtain ⟨again, given, same⟩ := Temporal.instantOfLong_spec rfl (inside _ rfl)
    exact ⟨.dateTimeOffset again, map_eq_ok.mpr ⟨_, given, rfl⟩,
      congrArg (fun long => Except.ok (LogicalValue.longZonedTimestamp long)) same⟩

theorem timestampExpression_ne (precision : Nat) : Temporal.timestampExpression precision ≠ "?" := by
  intro same
  have chars : (Temporal.timestampExpression precision).toList = "?".toList := by rw [same]
  unfold Temporal.timestampExpression at chars
  rw [String.toList_append, String.toList_append] at chars
  -- The expression starts with a letter.
  have function : "TO_TIMESTAMP(?, 'SYYYY-MM-DD HH24:MI:SS".toList =
      'T' :: "O_TIMESTAMP(?, 'SYYYY-MM-DD HH24:MI:SS".toList := rfl
  have mark : "?".toList = ['?'] := rfl
  rw [function, mark, List.cons_append, List.cons_append] at chars
  exact absurd (List.head_eq_of_cons_eq chars) (by decide)

variable {mode : Mode} {session : Session} {mapping : ColumnMapping}

/-- In one mode timestamps are bound as they are, in the other as text. -/
theorem stable_timestampOf {precision : Nat} (stored : precision ≤ mode.maxPrecision)
    (typed : (timestampOf mode precision).write.bindExpression = "?") :
    Stable (timestampOf mode precision).read (timestampOf mode precision).write := by
  cases mode with
  | mysql =>
    have short : precision ≤ Temporal.maxShortPrecision := stored
    simp only [timestampOf, timestampWrite, if_pos short]
    exact stable_timestamp short
  | oracle =>
    simp only [timestampOf, timestampWrite] at typed
    split at typed
    · exact absurd typed (timestampExpression_ne _)
    · exact absurd typed (timestampExpression_ne _)

theorem stable_of_family (family : Family mode session mapping)
    (typed : mapping.write.bindExpression = "?") (parsed : mapping.read ≠ .json) :
    Stable mapping.read mapping.write := by
  cases family with
  | boolean => exact stable_boolean
  | tinyInt => exact stable_tinyInt
  | smallInt => exact stable_smallInt
  | integer => exact stable_integer
  | decimal | openDecimal => exact stable_decimal _ _ _
  | char => exact stable_char
  | json => exact absurd rfl parsed
  | date => cases mode <;> exact absurd typed (by decide)
  | time stored => exact stable_time (Nat.le_trans stored (by cases mode <;> decide))
  | timestamp stored => exact stable_timestampOf stored typed
  | zoned =>
    unfold zonedOf
    split
    · exact stable_shortZoned
    · exact stable_longZoned
  | bigInt | real | double | varchar | largeText | varbinary =>
    -- Nothing is done to these values on the way in or out.
    intro value decoded _ decodes _
    cases decodes <;> exact ⟨_, rfl, rfl⟩

/-- Whatever a resolved column decodes is taken by its own strategy of writing and by that of a new
column of its type. Where the parameter is bound as it is, the value that is written decodes to the same
again. -/
theorem written_back {forced : List Int} {descriptor : Descriptor} {value : BackendValue}
    {decoded : LogicalValue} (resolved : resolve mode session forced descriptor = .ok (some mapping))
    (present : value.isNull = false) (decodes : mapping.read.decode value = .ok decoded) :
    WellShaped (mapping.write.encode decoded) ∧
      (∃ written, WriteMapping.ofType mode mapping.logicalType = .ok written ∧
        WellShaped (written.write.encode decoded)) ∧
      (mapping.write.bindExpression = "?" → mapping.read ≠ .json → ¬value.IsLeapTime →
        decoded.InCalendar →
          ∃ bound, mapping.write.encode decoded = .ok bound ∧
            mapping.read.decode bound = .ok decoded) := by
  have family := family_of_resolve resolved
  rw [ReadStrategy.decode_eq_ok present] at decodes
  obtain ⟨own, written, typed, new⟩ := paired_of_family family
  refine ⟨?_, ⟨written, typed, ?_⟩, ?_⟩
  · exact wellShaped_encode (takes_of_paired own decodes)
  · exact wellShaped_encode (takes_of_paired new decodes)
  · intro plain parsed notLeap inside
    exact stable_of_family family plain parsed value decoded notLeap decodes inside

/-- Four tenths of a millisecond before the epoch, in a column of milliseconds: the value is read as the
epoch itself, on the next day, and stays there. -/
theorem written_back_beforeEpoch :
    let descriptor := ((Descriptor.ofType .timestamp "DATETIME").withSize 23).withDigits 3
    let read := ReadStrategy.timestamp 3
    let write := WriteStrategy.timestamp 3
    let value : DateTime := ⟨⟨1969, 12, 31, by decide, by decide, by decide⟩,
      ⟨86399, 999600000, by decide, by decide⟩⟩
    resolve .mysql .default [] descriptor = .ok (some ⟨.timestamp 3, read, write, .full⟩) ∧
      read.decode (.dateTime value) = .ok (.shortTimestamp 0) ∧
      WellShaped (write.encode (.shortTimestamp 0)) ∧
      (∃ written, WriteMapping.ofType .mysql (.timestamp 3) = .ok written ∧
        WellShaped (written.write.encode (.shortTimestamp 0))) ∧
      ∃ bound, write.encode (.shortTimestamp 0) = .ok bound ∧
        read.decode bound = .ok (.shortTimestamp 0) := by
  intro descriptor read write value
  have resolved : resolve .mysql .default [] descriptor =
      .ok (some ⟨.timestamp 3, read, write, .full⟩) := rfl
  have counted : Temporal.epochMicros value 3 = .ok 0 :=
    (Temporal.epochMicros_eq_ok (by decide)).mpr (by decide)
  have decoded : read.decode (.dateTime value) = .ok (.shortTimestamp 0) :=
    map_eq_ok.mpr ⟨0, counted, rfl⟩
  obtain ⟨own, new, again⟩ := written_back resolved rfl decoded
  refine ⟨resolved, decoded, own, new, again rfl (by decide) id ?_⟩
  intro day member
  cases member
  decide

end ColumnMapping

end TypeBridge
