import TypeBridge.Proofs.Calendar.Reading
import TypeBridge.Proofs.Column.Created
import TypeBridge.Proofs.Column.Encoding
import TypeBridge.Proofs.Temporal.RoundTrip

/-!
Dates and timestamps that are bound as text. What is written reads as the date of the day or as the
date-time of the timestamp, rounded where the column has fewer digits, so nothing is lost on the way; and
the date-time decodes, in the column that was created for it, to the timestamp that was written.
-/
namespace TypeBridge

def WriteStrategy.BindsText : WriteStrategy → Prop
  | isoDate | formattedDate | timestampToDate | formattedTimestamp _ | formattedLongTimestamp _ => True
  | _ => False

def LogicalValue.OnGrid (digits : Nat) : LogicalValue → Prop
  | shortTimestamp micros => Temporal.step 12 digits ∣ micros.toInt * 1000000
  | longTimestamp value => Temporal.step 12 digits ∣ value.picos ∧ value.picosOfMicro.toNat < 1000000
  | _ => False

/-- The moment that a value of a type means. Long timestamps count picoseconds and are rounded to the
digits of their column, at most nine. -/
inductive Moment.Means : Moment → LogicalType → LogicalValue → Prop where
  | date {day : Int64} {found : Date} (same : found.epochDay = day.toInt) :
      Means (.date found) .date (.date day)
  | short {precision : Nat} {micros : Int64} {stamp : DateTime} {fraction : List Char}
      (few : precision ≤ 6) (plain : stamp.isLeap = false)
      (same : stamp.epochNano = micros.toInt * 1000) :
      Means (.dateTime stamp fraction) (.timestamp precision) (.shortTimestamp micros)
  | long {precision : Nat} {value : LongTimestamp} {stamp : DateTime} {fraction : List Char}
      (many : 6 < precision) (plain : stamp.isLeap = false)
      (rounds : Temporal.RoundsHalfUp (Temporal.step 12 (min precision 9)) value.picos
        (stamp.epochNano * 1000)) :
      Means (.dateTime stamp fraction) (.timestamp precision) (.longTimestamp value)

namespace WriteMapping

open TypeBridge.Temporal

variable {mode : Mode} {type : LogicalType} {written : WriteMapping} {precision : Nat}
  {value : LogicalValue} {bound : BackendValue} {stamp : DateTime}

inductive Stamped (precision : Nat) : LogicalValue → DateTime → Prop where
  | short {micros : Int64} {stamp : DateTime} (few : precision ≤ 6)
      (found : DateTime.ofEpochNano? (micros.toInt * 1000) = some stamp) :
      Stamped precision (.shortTimestamp micros) stamp
  | long {value : LongTimestamp} {stamp : DateTime} (many : 6 < precision)
      (found : DateTime.ofEpochNano? (roundToPrecision value.picos 12 (min precision 9) / 1000) =
        some stamp) :
      Stamped precision (.longTimestamp value) stamp

theorem textual (writes : ofType mode type = .ok written) (texts : written.write.BindsText) :
    (type = .date ∧ (written.write = .isoDate ∨ written.write = .formattedDate)) ∨
      ∃ precision, type = .timestamp precision ∧ mode = .oracle ∧ written = ofTimestamp .oracle precision := by
  cases type with
  | date => cases mode <;> cases writes <;> simp
  | timestamp precision =>
    cases mode with
    | mysql =>
      cases writes
      simp only [ofTimestamp] at texts
      split at texts <;> exact texts.elim
    | oracle =>
      cases writes
      exact .inr ⟨precision, rfl, rfl, rfl⟩
  | timestampWithTimeZone precision =>
    cases writes
    simp only [ofZonedTimestamp] at texts
    split at texts <;> exact texts.elim
  | _ => cases writes <;> exact texts.elim

theorem stamped_of_encodes (encodes : (ofTimestamp .oracle precision).write.Encodes value bound) :
    ∃ stamp, bound = .text (String.ofList stamp.chars) ∧ Stamped precision value stamp := by
  simp only [ofTimestamp] at encodes
  by_cases whole : precision = 0
  · subst whole
    rw [if_pos rfl] at encodes
    cases encodes with
    | @timestampToDate micros stamp found =>
      unfold wholeSecondDateTime at found
      split at found
      next seconds =>
        have stamped := orRange_eq_ok.mp found
        have nanos := DateTime.epochNano_ofEpochNano? stamped
        have none := stamp.fraction_eq
        have noFraction : stamp.time.fraction = 0 := by omega
        exact ⟨stamp, by rw [DateTime.chars_of_whole noFraction], .short (by decide) stamped⟩
      next => cases found
  · rw [if_neg whole] at encodes
    dsimp only at encodes
    split at encodes
    next few =>
      cases encodes with
      | formattedTimestamp found => exact ⟨_, rfl, .short few (orRange_eq_ok.mp found)⟩
    next many =>
      cases encodes with
      | formattedLongTimestamp found =>
        refine ⟨_, rfl, .long (Nat.lt_of_not_le many) ?_⟩
        have least : min (min precision Mode.oracle.maxPrecision) 9 = min precision 9 := by
          simp only [Mode.maxPrecision]
          omega
        rw [← least]
        exact orRange_eq_ok.mp found

theorem Stamped.plain (stamped : Stamped precision value stamp) : stamp.isLeap = false := by
  cases stamped with
  | short _ found => exact DateTime.isLeap_ofEpochNano? found
  | long _ found => exact DateTime.isLeap_ofEpochNano? found

theorem Stamped.means (stamped : Stamped precision value stamp) (fraction : List Char) :
    (Moment.dateTime stamp fraction).Means (.timestamp precision) value := by
  have plain := stamped.plain
  cases stamped with
  | short few found => exact .short few plain (DateTime.epochNano_ofEpochNano? found)
  | @long long _ many found =>
    have rounds := roundsHalfUp_roundToPrecision long.picos 12 (min precision 9)
    rw [← epochNano_of_long found] at rounds
    exact .long many plain rounds

theorem Stamped.onGrid (stamped : Stamped precision value stamp) (onGrid : value.OnGrid precision) :
    step 9 (min precision 9) ∣ stamp.epochNano := by
  have thousand : step 12 (min precision 9) ∣ stamp.epochNano * 1000 := by
    cases stamped with
    | @short micros _ few found =>
      have picos : stamp.epochNano * 1000 = micros.toInt * 1000000 := by
        rw [DateTime.epochNano_ofEpochNano? found]
        omega
      rw [picos, Nat.min_eq_left (by omega)]
      exact onGrid
    | long _ found =>
      rw [epochNano_of_long found]
      exact step_dvd_roundToPrecision ..
  rw [step_picos (Nat.min_le_right ..)] at thousand
  exact Int.dvd_of_mul_dvd_mul_right (by decide) thousand

theorem Stamped.length_fraction (stamped : Stamped precision value stamp)
    (onGrid : value.OnGrid precision) :
    stamp.time.fractionDigits.length ≤ min precision 9 := by
  apply Text.length_trimmed_le (by decide) (TimeOfDay.fraction_lt _)
  have second : step 9 (min precision 9) ∣ 1000000000 :=
    step_dvd (Nat.zero_le _)
  apply Int.natCast_dvd_natCast.mp
  rw [DateTime.fraction_eq, Int.emod_def]
  exact Int.dvd_sub (stamped.onGrid onGrid) (Int.dvd_trans second (Int.dvd_mul_right ..))

theorem timestampExpression_eq {digits : Nat} (more : 3 ≤ digits) : timestampExpression digits =
    "TO_TIMESTAMP(?, 'SYYYY-MM-DD HH24:MI:SS" ++ (".FF" ++ Text.numberText digits) ++ "')" := by
  have some : digits ≠ 0 := by omega
  have many : ¬digits ≤ 2 := by omega
  unfold timestampExpression
  simp only [if_neg some, if_neg many]

theorem bindExpression_ofTimestamp (some : precision ≠ 0) :
    (ofTimestamp .oracle precision).write.bindExpression = timestampExpression (min precision 9) := by
  simp only [ofTimestamp, if_neg some]
  split
  next few =>
    rw [Nat.min_eq_left (Nat.le_trans few (by decide))]
    rfl
  next => rfl

theorem Stamped.decode (stamped : Stamped precision value stamp) (onGrid : value.OnGrid precision)
    (few : precision ≤ 9) (afterZero : 1 ≤ stamp.date.year) {read : ReadStrategy}
    (reads : ColumnMapping.Reads (.timestamp precision) read) :
    read.decode (.dateTime stamp) = .ok value := by
  have nanoGrid := stamped.onGrid onGrid
  rw [Nat.min_eq_left few] at nanoGrid
  cases stamped with
  | @short micros _ short found =>
    have nanos := DateTime.epochNano_ofEpochNano? found
    have counted : epochMicros stamp precision = .ok micros := by
      rw [epochMicros_eq_ok short, roundToPrecision_of_dvd nanoGrid, nanos]
    cases reads with
    | timestamp => exact map_eq_ok.mpr ⟨micros, counted, rfl⟩
    | dateAsTimestamp =>
      -- The correction of a date column leaves the years after the year zero.
      have stays : correctEarlyYear stamp = .ok stamp := if_pos afterZero
      exact bind_eq_ok.mpr ⟨stamp, stays, bind_eq_ok.mpr ⟨micros, counted, rfl⟩⟩
    | longTimestamp long => exact absurd short (Nat.not_le.mpr long)
  | @long value _ many found =>
    obtain ⟨picoGrid, placed⟩ := onGrid
    have nanos := epochNano_of_long found
    rw [Nat.min_eq_left few, roundToPrecision_of_dvd picoGrid] at nanos
    have counted : Temporal.longTimestamp stamp precision = .ok value :=
      longTimestamp_eq_ok placed (by rw [nanos, roundToPrecision_of_dvd picoGrid])
    cases reads with
    | longTimestamp => exact map_eq_ok.mpr ⟨value, counted, rfl⟩
    | dateAsTimestamp => exact absurd many (by decide)
    | timestamp short => exact absurd many (Nat.not_lt.mpr short)

/-- Rounding apart, no moment is meant by two values. -/
theorem means_unique {moment : Moment} {other : LogicalValue} (means : moment.Means type value)
    (again : moment.Means type other) (exact : ∀ long, value ≠ .longTimestamp long) : other = value := by
  cases means with
  | date same =>
    cases again with
    | date other => rw [Int64.toInt_inj.mp (other.symm.trans same)]
  | short few _ same =>
    cases again with
    | short _ _ other =>
      congr 1
      apply Int64.toInt_inj.mp
      omega
    | long many => exact absurd few (Nat.not_le.mpr many)
  | long => exact absurd rfl (exact _)

theorem read?_of_encodes (writes : ofType mode type = .ok written) (texts : written.write.BindsText)
    (encodes : written.write.Encodes value bound) :
    ∃ text moment, bound = .text text ∧ Moment.read? text.toList = some moment ∧
      moment.Means type value := by
  rcases textual writes texts with ⟨rfl, strategy⟩ | ⟨precision, rfl, rfl, rfl⟩
  · have dated : ∃ day date, value = .date day ∧ bound = .text (String.ofList date.chars) ∧
        dateOfEpochDay day.toInt = .ok date := by
      rcases strategy with strategy | strategy
      all_goals
        rw [strategy] at encodes
        cases encodes
        exact ⟨_, _, rfl, rfl, ‹_›⟩
    obtain ⟨day, date, rfl, rfl, found⟩ := dated
    refine ⟨_, .date date, rfl, ?_, .date (Date.epochDay_ofEpochDay? (orRange_eq_ok.mp found))⟩
    rw [String.toList_ofList, Moment.read?_date]
  · obtain ⟨stamp, rfl, stamped⟩ := stamped_of_encodes encodes
    refine ⟨_, .dateTime stamp stamp.time.fractionDigits, rfl, ?_, stamped.means _⟩
    rw [String.toList_ofList, Moment.read?_dateTime stamped.plain]

/-- A date or timestamp that is bound as text is read from the text as what it is, in every year, and a
long timestamp as what it is when it is rounded to the digits of its column; so dates and short timestamps
that differ have texts that differ. A timestamp on the grid of its type has no digit in its fraction that
the expression around the parameter does not ask for, and, up to nine digits and after the year zero, its
date-time is decoded by the created column to the timestamp. -/
theorem text_reads_back (valid : type.Valid) (writes : ofType mode type = .ok written)
    (texts : written.write.BindsText) (present : value.isNull = false)
    (encoded : written.write.encode value = .ok bound) :
    ∃ text moment, bound = .text text ∧ Moment.read? text.toList = some moment ∧
      moment.Means type value ∧
      ((∀ long, value ≠ .longTimestamp long) →
        ∀ other, written.write.encode other = .ok bound → other = value) ∧
      ∀ precision, type = .timestamp precision → value.OnGrid precision →
        ∃ stamp fraction, moment = .dateTime stamp fraction ∧
          fraction.length ≤ min precision 9 ∧ fraction.getLast? ≠ some '0' ∧
          (3 ≤ precision → written.write.bindExpression =
            "TO_TIMESTAMP(?, 'SYYYY-MM-DD HH24:MI:SS" ++
              (".FF" ++ Text.numberText (min precision 9)) ++ "')") ∧
          (precision ≤ 9 → 1 ≤ stamp.date.year →
            ∃ descriptor mapping, Driver.describe? mode written.dataType.sql = some descriptor ∧
              ColumnMapping.resolve mode .default [] descriptor = .ok (some mapping) ∧
              mapping.read.decode (.dateTime stamp) = .ok value) := by
  rw [WriteStrategy.encode_eq_ok present] at encoded
  obtain ⟨text, moment, rfl, read, means⟩ := read?_of_encodes writes texts encoded
  refine ⟨text, moment, rfl, read, means, ?_, ?_⟩
  · intro exact other encodedOther
    have presentOther : other.isNull = false := by
      cases other with
      | null => simp [WriteStrategy.encode, WriteStrategy.nullValue] at encodedOther
      | _ => rfl
    rw [WriteStrategy.encode_eq_ok presentOther] at encodedOther
    obtain ⟨same, again, spelled, readAgain, meansAgain⟩ := read?_of_encodes writes texts encodedOther
    cases spelled
    rw [read] at readAgain
    cases readAgain
    exact means_unique means meansAgain exact
  · rintro precision rfl onGrid
    rcases textual writes texts with ⟨dated, -⟩ | ⟨digits, same, rfl, rfl⟩
    · cases dated
    cases same
    -- The moment that was read is the date-time whose text was bound.
    obtain ⟨stamp, spelled, stamped⟩ := stamped_of_encodes encoded
    cases spelled
    rw [String.toList_ofList, Moment.read?_dateTime stamped.plain] at read
    cases read
    refine ⟨stamp, _, rfl, stamped.length_fraction onGrid, Text.getLast?_trimmed 9 _, ?_, ?_⟩
    · intro many
      rw [bindExpression_ofTimestamp (by omega), timestampExpression_eq (by omega)]
    · intro few afterZero
      obtain ⟨again, descriptor, mapping, sameWrite, described, resolved, held⟩ :=
        LogicalType.returns_of_hasColumn .oracle (.timestamp precision) valid trivial
      cases writes.symm.trans sameWrite
      have reads := ColumnMapping.reads_of_family (ColumnMapping.family_of_resolve resolved)
      rw [LogicalType.holds_timestamp few held] at reads
      exact ⟨descriptor, mapping, described, resolved, stamped.decode onGrid few afterZero reads⟩

/-- The last nanosecond before the epoch, in a column of nanoseconds. -/
theorem text_reads_back_beforeEpoch :
    let value := LogicalValue.longTimestamp ⟨-1, 999000⟩
    let stamp : DateTime := ⟨⟨1969, 12, 31, by decide, by decide, by decide⟩,
      ⟨86399, 999999999, by decide, by decide⟩⟩
    let written := ofTimestamp .oracle 9
    written.write.encode value = .ok (.text "1969-12-31 23:59:59.999999999") ∧
      ∃ fraction,
        Moment.read? "1969-12-31 23:59:59.999999999".toList = some (.dateTime stamp fraction) ∧
          (Moment.dateTime stamp fraction).Means (.timestamp 9) value ∧ fraction.length ≤ 9 ∧
          ∃ descriptor mapping, Driver.describe? .oracle written.dataType.sql = some descriptor ∧
            ColumnMapping.resolve .oracle .default [] descriptor = .ok (some mapping) ∧
            mapping.read.decode (.dateTime stamp) = .ok value := by
  intro value stamp written
  have rounded : roundToPrecision (LongTimestamp.picos ⟨-1, 999000⟩) 12 (min 9 9) / 1000 = -1 := by
    decide
  have found : dateTimeOfLongTimestamp ⟨-1, 999000⟩ 9 = .ok stamp := by
    rw [dateTimeOfLongTimestamp, rounded]
    exact orRange_eq_ok.mpr rfl
  have chars : stamp.chars = "1969-12-31 23:59:59.999999999".toList := by decide
  have encoded : written.write.encode value = .ok (.text "1969-12-31 23:59:59.999999999") := by
    refine map_eq_ok.mpr ⟨stamp, found, ?_⟩
    rw [WriteStrategy.dateTimeText, chars, String.ofList_toList]
  have onGrid : value.OnGrid 9 := ⟨by decide, by decide⟩
  have valid : (LogicalType.timestamp 9).Valid := show 9 ≤ LogicalType.maxTemporalPrecision by decide
  have writes : ofType .oracle (.timestamp 9) = .ok written := rfl
  obtain ⟨text, moment, spelled, read, means, -, grid⟩ :=
    text_reads_back valid writes trivial rfl encoded
  obtain ⟨same, fraction, rfl, short, -, -, column⟩ := grid 9 rfl onGrid
  cases spelled
  have direct := @Moment.read?_dateTime stamp rfl
  rw [← chars, direct] at read
  cases read
  rw [← chars]
  exact ⟨encoded, _, direct, means, short, column (by decide) (by decide)⟩

end WriteMapping

end TypeBridge
