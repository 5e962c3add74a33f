import TypeBridge.Calendar.Time
import TypeBridge.Proofs.Calendar.Order

/-!
Instants as seconds and nanoseconds. A date-time that is found for a number has that number, and it is
found whenever its day lies in the calendar. Leap seconds apart, a date-time is found by its own number,
and later date-times have greater ones.
-/
namespace TypeBridge

namespace TimeOfDay

theorem isLeap_eq_false {time : TimeOfDay} : time.isLeap = false ↔ time.nanosecond < 1000000000 := by
  rw [isLeap, decide_eq_false_iff_not, Nat.not_le]

theorem make?_eq_some {second nanosecond : Nat} {time : TimeOfDay}
    (h : make? second nanosecond = some time) :
    time.second = second ∧ time.nanosecond = nanosecond := by
  unfold make? at h
  split at h
  · split at h
    · cases h
      exact ⟨rfl, rfl⟩
    · cases h
  · cases h

theorem make?_of_lt {second nanosecond : Nat} (seconds : second < 86400)
    (plain : nanosecond < 1000000000) :
    make? second nanosecond = some ⟨second, nanosecond, seconds, by omega⟩ := by
  rw [make?, dif_pos ⟨seconds, by omega⟩, if_pos]
  simp [plain]

/-- Every number of nanoseconds less than a day has passed at some time of day. -/
theorem exists_nanoOfDay {nanos : Nat} (within : nanos < 86400 * 1000000000) :
    ∃ time : TimeOfDay, time.isLeap = false ∧ time.nanoOfDay = nanos := by
  refine ⟨⟨nanos / 1000000000, nanos % 1000000000, by omega, by omega⟩, ?_, ?_⟩
  · rw [isLeap_eq_false]
    exact Nat.mod_lt _ (by decide)
  · exact Nat.div_add_mod' nanos 1000000000

theorem make?_nanoOfDay {nanos : Nat} (within : nanos < 86400 * 1000000000) {time : TimeOfDay} :
    make? (nanos / 1000000000) (nanos % 1000000000) = some time ↔
      time.isLeap = false ∧ time.nanoOfDay = nanos := by
  rw [isLeap_eq_false, nanoOfDay]
  constructor
  · intro made
    obtain ⟨seconds, nanoseconds⟩ := make?_eq_some made
    omega
  · rintro ⟨plain, rfl⟩
    have seconds : (time.second * 1000000000 + time.nanosecond) / 1000000000 = time.second := by omega
    have nanoseconds : (time.second * 1000000000 + time.nanosecond) % 1000000000 = time.nanosecond := by
      omega
    rw [seconds, nanoseconds]
    exact make?_of_lt time.second_lt plain

end TimeOfDay

namespace DateTime

theorem ofEpochSecond?_eq_some {second : Int} {nanosecond : Nat} {value : DateTime}
    (h : ofEpochSecond? second nanosecond = some value) :
    value.epochSecond = second ∧ value.time.nanosecond = nanosecond := by
  unfold ofEpochSecond? at h
  obtain ⟨date, found, h⟩ := Option.bind_eq_some_iff.mp h
  obtain ⟨time, made, h⟩ := Option.bind_eq_some_iff.mp h
  cases h
  have day := Date.epochDay_ofEpochDay? found
  obtain ⟨inDay, fraction⟩ := TimeOfDay.make?_eq_some made
  constructor
  · rw [epochSecond, day, inDay]
    omega
  · exact fraction

theorem ofEpochSecond?_of_inCalendar {second : Int} {nanosecond : Nat}
    (inside : Date.InCalendar (second / 86400)) (plain : nanosecond < 1000000000) :
    ∃ value, ofEpochSecond? second nanosecond = some value := by
  obtain ⟨date, found⟩ := Date.ofEpochDay?_of_inCalendar inside
  have made := TimeOfDay.make?_of_lt (show (second % 86400).toNat < 86400 by omega) plain
  refine ⟨⟨date, ⟨(second % 86400).toNat, nanosecond, by omega, by omega⟩⟩, ?_⟩
  rw [ofEpochSecond?, found, made]
  rfl

theorem epochNano_ofEpochNano? {nanos : Int} {value : DateTime} (h : ofEpochNano? nanos = some value) :
    value.epochNano = nanos := by
  obtain ⟨seconds, fraction⟩ := ofEpochSecond?_eq_some h
  rw [epochNano, seconds, fraction]
  omega

theorem epochSecond_bounds (value : DateTime) :
    -8334601228800 ≤ value.epochSecond ∧ value.epochSecond < 8210266876800 := by
  have firstDay : Date.first.epochDay = -96465292 := rfl
  have lastDay : Date.last.epochDay = 95026236 := rfl
  obtain ⟨early, late⟩ := value.date.inCalendar_epochDay
  have seconds := value.time.second_lt
  rw [epochSecond]
  omega

theorem epochNano_bounds (value : DateTime) :
    -8334601228800000000000 ≤ value.epochNano ∧ value.epochNano < 8210266876801000000000 := by
  have seconds := value.epochSecond_bounds
  have nanoseconds := value.time.nanosecond_lt
  rw [epochNano]
  omega

theorem isLeap_ofEpochNano? {nanos : Int} {value : DateTime} (h : ofEpochNano? nanos = some value) :
    value.isLeap = false := by
  obtain ⟨-, fraction⟩ := ofEpochSecond?_eq_some h
  rw [isLeap, TimeOfDay.isLeap_eq_false, fraction]
  omega

theorem ofEpochNano?_of_inCalendar {nanos : Int}
    (inside : Date.InCalendar (nanos / 1000000000 / 86400)) :
    ∃ value, ofEpochNano? nanos = some value :=
  ofEpochSecond?_of_inCalendar inside (by omega)

theorem ofEpochSecond?_self {value : DateTime} (plain : value.isLeap = false) :
    ofEpochSecond? value.epochSecond value.time.nanosecond = some value := by
  have seconds := value.time.second_lt
  have day : value.epochSecond / 86400 = value.date.epochDay := by
    rw [epochSecond]
    omega
  have inDay : (value.epochSecond % 86400).toNat = value.time.second := by
    rw [epochSecond]
    omega
  rw [ofEpochSecond?, day, inDay, Date.ofEpochDay?_epochDay,
    TimeOfDay.make?_of_lt seconds (TimeOfDay.isLeap_eq_false.mp plain)]
  rfl

theorem ofEpochNano?_epochNano {value : DateTime} (plain : value.isLeap = false) :
    ofEpochNano? value.epochNano = some value := by
  have nanoseconds := TimeOfDay.isLeap_eq_false.mp plain
  have second : value.epochNano / 1000000000 = value.epochSecond := by
    rw [epochNano]
    omega
  have fraction : (value.epochNano % 1000000000).toNat = value.time.nanosecond := by
    rw [epochNano]
    omega
  rw [ofEpochNano?, second, fraction, ofEpochSecond?_self plain]

def first : DateTime := ⟨Date.first, .midnight⟩

def last : DateTime := ⟨Date.last, ⟨86399, 999999999, by decide, by decide⟩⟩

theorem exists_ofEpochNano? {nanos : Int} :
    (∃ value, ofEpochNano? nanos = some value) ↔ first.epochNano ≤ nanos ∧ nanos ≤ last.epochNano := by
  have firstNano : first.epochNano = -8334601228800000000000 := rfl
  have lastNano : last.epochNano = 8210266876799999999999 := rfl
  constructor
  · rintro ⟨value, found⟩
    have plain := TimeOfDay.isLeap_eq_false.mp (isLeap_ofEpochNano? found)
    have seconds := value.epochSecond_bounds
    have counted := epochNano_ofEpochNano? found
    rw [epochNano] at counted
    omega
  · rintro ⟨early, late⟩
    have firstDay : Date.first.epochDay = -96465292 := rfl
    have lastDay : Date.last.epochDay = 95026236 := rfl
    exact ofEpochNano?_of_inCalendar ⟨by omega, by omega⟩

def before (left right : DateTime) : Prop :=
  left.date.before right.date ∨ (left.date = right.date ∧
    (left.time.second < right.time.second ∨ (left.time.second = right.time.second ∧
      left.time.nanosecond < right.time.nanosecond)))

/-- A leap second has the nanoseconds of the second after it, so it is left out here. -/
theorem epochNano_lt_of_before {left right : DateTime} (plain : left.isLeap = false)
    (order : left.before right) : left.epochNano < right.epochNano := by
  have nanoseconds := TimeOfDay.isLeap_eq_false.mp plain
  have seconds := left.time.second_lt
  simp only [epochNano, epochSecond]
  rcases order with earlier | ⟨sameDate, earlier | ⟨sameSecond, earlier⟩⟩
  · have days := Date.epochDay_lt_of_before earlier
    omega
  · rw [sameDate]
    omega
  · rw [sameDate, sameSecond]
    omega

/-- A shift carries into days, months and years as the numbers of the seconds do. -/
theorem epochSecond_shift? {value shifted : DateTime} {seconds : Int}
    (h : value.shift? seconds = some shifted) :
    shifted.epochSecond = value.epochSecond + seconds ∧
      shifted.time.nanosecond = value.time.nanosecond := by
  obtain ⟨date, found, h⟩ := Option.bind_eq_some_iff.mp h
  cases h
  have day := Date.epochDay_ofEpochDay? found
  refine ⟨?_, rfl⟩
  rw [epochSecond, day]
  dsimp only
  omega

end DateTime

namespace OffsetDateTime

def instant (value : OffsetDateTime) : Int := value.utc.epochNano

/-- What is shown at an offset is later than the instant by the offset. -/
theorem instant_ofLocal? {shown : DateTime} {offset : Int} {value : OffsetDateTime}
    (h : ofLocal? shown offset = some value) :
    value.instant = shown.epochNano - offset * 1000000000 := by
  unfold ofLocal? at h
  split at h
  next =>
    obtain ⟨utc, shifted, rfl⟩ := Option.map_eq_some_iff.mp h
    obtain ⟨seconds, nanoseconds⟩ := DateTime.epochSecond_shift? shifted
    calc utc.epochSecond * 1000000000 + utc.time.nanosecond
      _ = (shown.epochSecond + -offset) * 1000000000 + shown.time.nanosecond := by
          rw [seconds, nanoseconds]
      _ = shown.epochNano - offset * 1000000000 := by
          rw [DateTime.epochNano]
          omega
  next => cases h

end OffsetDateTime

end TypeBridge
