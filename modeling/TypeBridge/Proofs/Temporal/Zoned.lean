import TypeBridge.Column.ReadStrategy
import TypeBridge.Proofs.Temporal.RoundTrip

/-!
Timestamps with a time zone. Both forms are made of the instant alone, whatever the offset at which it was
shown, and have the same milliseconds; the short form has no others and fewer years.
-/
namespace TypeBridge.Temporal

variable {value left right : OffsetDateTime} {packed : Int64}

theorem epochMilli_congr (same : left.instant = right.instant) : epochMilli left = epochMilli right := by
  rw [epochMilli_eq, epochMilli_eq, same]

theorem shortZonedTimestamp_congr (same : left.instant = right.instant) :
    shortZonedTimestamp left = shortZonedTimestamp right := by
  rw [shortZonedTimestamp, shortZonedTimestamp, epochMilli_congr same]

/-- What is left of the millisecond is the same, even where one of the two is a leap second. -/
theorem longZonedTimestamp_congr (same : left.instant = right.instant) :
    longZonedTimestamp left = longZonedTimestamp right := by
  have part : left.utc.time.nanosecond % 1000000 = right.utc.time.nanosecond % 1000000 := by
    simp only [OffsetDateTime.instant, DateTime.epochNano] at same
    omega
  rw [longZonedTimestamp, longZonedTimestamp, epochMilli_congr same, part]

theorem exists_shortZonedTimestamp : (∃ packed, shortZonedTimestamp value = .ok packed) ↔
    -(twoTo 51 : Int) ≤ value.instant / 1000000 ∧ value.instant / 1000000 < twoTo 51 := by
  rw [← epochMilli_eq]
  exact exists_pack

/-- Without the further digits, an instant that is no leap second is found again. -/
theorem instantOfMillis_floor (plain : value.utc.isLeap = false) :
    ∃ floored, instantOfMillis (epochMilli value) = .ok (.atUtc floored) ∧
      floored.isLeap = false ∧ floored.epochNano = value.instant / 1000000 * 1000000 := by
  have seconds := value.utc.time.second_lt
  have nanoseconds := TimeOfDay.isLeap_eq_false.mp plain
  have day : epochMilli value / 1000 / 86400 = value.utc.date.epochDay := by
    rw [epochMilli, DateTime.epochSecond]
    omega
  rw [← epochMilli_eq]
  exact instantOfMillis_of_inCalendar (day ▸ value.utc.date.inCalendar_epochDay)

theorem picosOfMilli_lt (value : OffsetDateTime) :
    (longZonedTimestamp value).picosOfMilli.toNat < 1000000000 := by
  rw [picosOfMilli_longZonedTimestamp]
  omega

theorem instantOfLong_longZonedTimestamp (plain : value.utc.isLeap = false) :
    instantOfLong (longZonedTimestamp value) = .ok (.atUtc value.utc) := by
  have nanoseconds := TimeOfDay.isLeap_eq_false.mp plain
  have second : epochMilli value / 1000 = value.utc.epochSecond := by
    rw [epochMilli]
    omega
  have nanosecond : (epochMilli value % 1000).toNat * 1000000 +
      value.utc.time.nanosecond % 1000000 * 1000 / 1000 = value.utc.time.nanosecond := by
    rw [epochMilli]
    omega
  rw [instantOfLong, orRange_eq_ok, epochMillis_longZonedTimestamp, picosOfMilli_longZonedTimestamp,
    second, nanosecond, DateTime.ofEpochSecond?_self plain]
  rfl

/-- What the two forms of an instant hold, and what they are read back as. -/
structure ZonedForms (value : OffsetDateTime) : Prop where
  within : (longZonedTimestamp value).picosOfMilli.toNat < 1000000000
  floors : (longZonedTimestamp value).epochMillis.toInt = value.instant / 1000000
  zone : (longZonedTimestamp value).zoneKey = utcKey
  packs : (∃ packed, shortZonedTimestamp value = .ok packed) ↔
    -(twoTo 51 : Int) ≤ value.instant / 1000000 ∧ value.instant / 1000000 < twoTo 51
  agree : ∀ packed, shortZonedTimestamp value = .ok packed →
    unpackMillis packed = (longZonedTimestamp value).epochMillis.toInt
  longReturns : value.utc.isLeap = false →
    instantOfLong (longZonedTimestamp value) = .ok (.atUtc value.utc)
  shortReturns : value.utc.isLeap = false → ∀ packed, shortZonedTimestamp value = .ok packed →
    ∃ floored, instantOfMillis (unpackMillis packed) = .ok (.atUtc floored) ∧
      floored.isLeap = false ∧ floored.epochNano = value.instant / 1000000 * 1000000

/-- A date-time shown at an offset has the instant of its fields less the offset. Values of one instant have
the same forms, or none, and a date-time without an offset is decoded as any value of the instant that it
is in UTC. The forms of a value agree on the milliseconds, and give back an instant that is no leap second,
the short one without its further digits. -/
theorem zonedTimestamps_of_instant :
    (∀ (shown : DateTime) (offset : Int) (value : OffsetDateTime),
      OffsetDateTime.ofLocal? shown offset = some value →
        value.instant = shown.epochNano - offset * 1000000000) ∧
    (∀ left right : OffsetDateTime, left.instant = right.instant →
      shortZonedTimestamp left = shortZonedTimestamp right ∧
        longZonedTimestamp left = longZonedTimestamp right) ∧
    (∀ (plain : DateTime) (value : OffsetDateTime), value.instant = plain.epochNano →
      ReadStrategy.shortZonedTimestamp.decode (.dateTime plain) =
          ReadStrategy.shortZonedTimestamp.decode (.dateTimeOffset value) ∧
        ReadStrategy.longZonedTimestamp.decode (.dateTime plain) =
          ReadStrategy.longZonedTimestamp.decode (.dateTimeOffset value)) ∧
    ∀ value : OffsetDateTime, ZonedForms value := by
  refine ⟨?_, ?_, ?_, ?_⟩
  · intro shown offset value made
    exact OffsetDateTime.instant_ofLocal? made
  · intro left right same
    exact ⟨shortZonedTimestamp_congr same, longZonedTimestamp_congr same⟩
  · intro plain value same
    have sameUtc : (OffsetDateTime.atUtc plain).instant = value.instant := same.symm
    constructor
    · change LogicalValue.shortZonedTimestamp <$> shortZonedTimestamp (.atUtc plain) =
        LogicalValue.shortZonedTimestamp <$> shortZonedTimestamp value
      rw [shortZonedTimestamp_congr sameUtc]
    · change Except.ok (LogicalValue.longZonedTimestamp (longZonedTimestamp (.atUtc plain))) =
        Except.ok (LogicalValue.longZonedTimestamp (longZonedTimestamp value))
      rw [longZonedTimestamp_congr sameUtc]
  · intro value
    have millis := (epochMillis_longZonedTimestamp value).trans (epochMilli_eq value)
    exact {
      within := picosOfMilli_lt value
      floors := millis
      zone := rfl
      packs := exists_shortZonedTimestamp
      agree := fun packed packs => by
        rw [unpackMillis_of_shortZonedTimestamp packs, epochMillis_longZonedTimestamp]
      longReturns := instantOfLong_longZonedTimestamp
      shortReturns := fun plain packed packs => by
        rw [unpackMillis_of_shortZonedTimestamp packs]
        exact instantOfMillis_floor plain }

/-- Half an hour after midnight on New Year's Day, an hour east of UTC, is half past six in the evening
before, five hours west of it. -/
theorem zonedTimestamps_of_instant_newYear :
    let east : DateTime := ⟨⟨2024, 1, 1, by decide, by decide, by decide⟩,
      ⟨1800, 123456789, by decide, by decide⟩⟩
    let west : DateTime := ⟨⟨2023, 12, 31, by decide, by decide, by decide⟩,
      ⟨66600, 123456789, by decide, by decide⟩⟩
    ∃ left right, OffsetDateTime.ofLocal? east 3600 = some left ∧
      OffsetDateTime.ofLocal? west (-18000) = some right ∧ left.offset ≠ right.offset ∧
      shortZonedTimestamp left = shortZonedTimestamp right ∧
      longZonedTimestamp left = longZonedTimestamp right ∧
      instantOfLong (longZonedTimestamp left) = .ok (.atUtc right.utc) := by
  intro east west
  let utc : DateTime := ⟨⟨2023, 12, 31, by decide, by decide, by decide⟩,
    ⟨84600, 123456789, by decide, by decide⟩⟩
  have fromEast : OffsetDateTime.ofLocal? east 3600 = some ⟨utc, 3600⟩ := by decide +kernel
  have fromWest : OffsetDateTime.ofLocal? west (-18000) = some ⟨utc, -18000⟩ := by decide +kernel
  obtain ⟨instants, forms, -, each⟩ := zonedTimestamps_of_instant
  have same : OffsetDateTime.instant ⟨utc, 3600⟩ = OffsetDateTime.instant ⟨utc, -18000⟩ := by
    rw [instants east _ _ fromEast, instants west _ _ fromWest]
    decide +kernel
  obtain ⟨short, long⟩ := forms _ _ same
  exact ⟨_, _, fromEast, fromWest, by decide, short, long, (each ⟨utc, 3600⟩).longReturns rfl⟩

end TypeBridge.Temporal
