import Mathlib.Algebra.GroupWithZero.Nat
import TypeBridge.Calendar.Date

/-!
The numbering of days. The date that is counted off for a day has that day as its number, and every day
from the first date of the calendar to the last has a date.
-/
namespace TypeBridge.Date

def first : Date := ⟨-262143, 1, 1, by decide, by decide, by decide⟩

def last : Date := ⟨262142, 12, 31, by decide, by decide, by decide⟩

/-- Whether a day, counted from the epoch, lies between the first date and the last. -/
def InCalendar (day : Int) : Prop := first.epochDay ≤ day ∧ day ≤ last.epochDay

instance (day : Int) : Decidable (InCalendar day) := inferInstanceAs (Decidable (_ ∧ _))

def daysInYear (year : Int) : Nat := if isLeapYear year then 366 else 365

theorem sum_monthLengths (year : Int) : (monthLengths (isLeapYear year)).sum = daysInYear year := by
  unfold daysInYear
  cases isLeapYear year <;> rfl

theorem isLeapYear_eq_true {year : Int} :
    isLeapYear year = true ↔ year % 4 = 0 ∧ (year % 100 ≠ 0 ∨ year % 400 = 0) := by
  simp only [isLeapYear, Bool.and_eq_true, Bool.or_eq_true, beq_iff_eq, bne_iff_ne]

/-- What is counted off of the days: cycles of 400 years, centuries, groups of four years and years. The
last century and the last year of a group may have a day more. -/
theorem yearOfDay_parts (days : Int) :
    ∃ (cycle : Int) (century group year inYear : Nat),
      yearOfDay days = (400 * cycle + 100 * century + 4 * group + year + 1, inYear) ∧
      days = 146097 * cycle + 36524 * century + 1461 * group + 365 * year + inYear ∧
      century ≤ 3 ∧ group ≤ 24 ∧ year ≤ 3 ∧ inYear ≤ 365 ∧
      (inYear = 365 → year = 3 ∧ (group = 24 → century = 3)) := by
  refine ⟨days / 146097, min ((days % 146097).toNat / 36524) 3, _, _, _, rfl, ?_⟩
  generalize inCycle : (days % 146097).toNat = rest
  generalize inCentury : rest - min (rest / 36524) 3 * 36524 = left
  omega

theorem elapsed_quotients {cycle : Int} {century group year : Nat} (centuries : century ≤ 3)
    (groups : group ≤ 24) (years : year ≤ 3) :
    (400 * cycle + 100 * century + 4 * group + year) / 4 = 100 * cycle + 25 * century + group ∧
      (400 * cycle + 100 * century + 4 * group + year) / 100 = 4 * cycle + century ∧
      (400 * cycle + 100 * century + 4 * group + year) / 400 = cycle := by
  omega

theorem daysBeforeYear_yearOfDay (days : Int) :
    daysBeforeYear (yearOfDay days).1 + (yearOfDay days).2 = days := by
  obtain ⟨cycle, century, group, year, inYear, counted, whole, centuries, groups, years, _⟩ :=
    yearOfDay_parts days
  obtain ⟨byFour, byCentury, byCycle⟩ := elapsed_quotients centuries groups years
  rw [counted]
  simp only [daysBeforeYear, Int.add_sub_cancel]
  rw [byFour, byCentury, byCycle]
  omega

/-- What is left of the days fits into the year. -/
theorem yearOfDay_lt (days : Int) : (yearOfDay days).2 < daysInYear (yearOfDay days).1 := by
  obtain ⟨cycle, century, group, year, inYear, counted, _, centuries, groups, years, most, longest⟩ :=
    yearOfDay_parts days
  rw [counted, daysInYear]
  split
  next => omega
  next common =>
    rw [isLeapYear_eq_true] at common
    omega

theorem daysBeforeYear_succ (year : Int) :
    daysBeforeYear (year + 1) = daysBeforeYear year + daysInYear year := by
  simp only [daysBeforeYear, daysInYear, Int.add_sub_cancel]
  split
  next leap =>
    rw [isLeapYear_eq_true] at leap
    omega
  next common =>
    rw [isLeapYear_eq_true] at common
    omega

theorem daysBeforeYear_le {left right : Int} (order : left ≤ right) :
    daysBeforeYear left ≤ daysBeforeYear right := by
  simp only [daysBeforeYear]
  omega

theorem monthOfDay_spec (lengths : List Nat) (start day : Nat) (within : day < lengths.sum) :
    ∃ passed, monthOfDay lengths start day = (start + passed, day - (lengths.take passed).sum) ∧
      passed < lengths.length ∧ (lengths.take passed).sum ≤ day ∧
      day - (lengths.take passed).sum < lengths.getD passed 0 := by
  induction lengths generalizing start day with
  | nil => simp at within
  | cons length rest ih =>
    rw [List.sum_cons] at within
    by_cases here : day < length
    · refine ⟨0, ?_, by simp, by simp, by simpa using here⟩
      simp [monthOfDay, here]
    · obtain ⟨passed, found, listed, before, fits⟩ := ih (start + 1) (day - length) (by omega)
      refine ⟨passed + 1, ?_, ?_, ?_, ?_⟩
      · rw [monthOfDay, if_neg here, found, List.take_succ_cons, List.sum_cons]
        congr 1 <;> omega
      · rw [List.length_cons]
        omega
      · rw [List.take_succ_cons, List.sum_cons]
        omega
      · rw [List.take_succ_cons, List.sum_cons, List.getD_cons_succ, ← Nat.sub_sub]
        exact fits

theorem daysInMonth_le (year : Int) (month : Nat) : daysInMonth year month ≤ 31 := by
  have most : ∀ length ∈ monthLengths (isLeapYear year), length ≤ 31 := by
    cases isLeapYear year <;> decide
  rw [daysInMonth, List.getD_eq_getElem?_getD]
  cases found : (monthLengths (isLeapYear year))[month - 1]? with
  | none => decide
  | some length => exact most length (List.mem_of_getElem? found)

theorem daysBeforeMonth_add_le (year : Int) {month : Nat} (known : 1 ≤ month ∧ month ≤ 12) :
    daysBeforeMonth year month + daysInMonth year month ≤ daysInYear year := by
  have ends : ∀ (leap : Bool) (passed : Fin 12), ((monthLengths leap).take passed).foldr (· + ·) 0 +
      (monthLengths leap).getD passed 0 ≤ (monthLengths leap).sum := by decide
  rw [← sum_monthLengths]
  exact ends (isLeapYear year) ⟨month - 1, by omega⟩

theorem ofEpochDay?_parts (day : Int) :
    ∃ (year : Int) (month inMonth : Nat), ofEpochDay? day = make? year month (inMonth + 1) ∧
      (1 ≤ month ∧ month ≤ 12) ∧ inMonth < daysInMonth year month ∧
      daysBeforeYear year + daysBeforeMonth year month + inMonth - epochOffset = day ∧
      daysBeforeYear year ≤ day + epochOffset ∧ day + epochOffset < daysBeforeYear (year + 1) := by
  have whole := daysBeforeYear_yearOfDay (day + epochOffset)
  have within := yearOfDay_lt (day + epochOffset)
  cases split : yearOfDay (day + epochOffset) with
  | mk year inYear =>
    rw [split] at whole within
    dsimp only at whole within
    have nextYear := daysBeforeYear_succ year
    rw [← sum_monthLengths] at within
    obtain ⟨passed, found, listed, before, fits⟩ := monthOfDay_spec _ 1 inYear within
    have twelve : (monthLengths (isLeapYear year)).length = 12 := rfl
    have monthIndex : 1 + passed - 1 = passed := by omega
    refine ⟨year, 1 + passed, inYear - ((monthLengths (isLeapYear year)).take passed).sum,
      ?_, by omega, ?_, ?_, by omega, ?_⟩
    · simp only [ofEpochDay?, split, found]
    · rw [daysInMonth, monthIndex]
      exact fits
    · have counted : daysBeforeMonth year (1 + passed) =
          ((monthLengths (isLeapYear year)).take passed).sum := by
        rw [daysBeforeMonth, monthIndex]
        rfl
      rw [counted]
      omega
    · rw [nextYear]
      rw [sum_monthLengths] at within
      omega

theorem make?_self (date : Date) : make? date.year date.month date.day = some date := by
  rw [make?, dif_pos ⟨date.year_mem, date.month_mem, date.day_mem⟩]

theorem make?_eq_some {year : Int} {month day : Nat} {date : Date}
    (h : make? year month day = some date) : date.year = year ∧ date.month = month ∧ date.day = day := by
  unfold make? at h
  split at h
  · cases h
    exact ⟨rfl, rfl, rfl⟩
  · cases h

theorem epochDay_ofEpochDay? {day : Int} {date : Date} (h : ofEpochDay? day = some date) :
    date.epochDay = day := by
  obtain ⟨year, month, inMonth, counted, _, _, whole, _⟩ := ofEpochDay?_parts day
  rw [counted] at h
  obtain ⟨rfl, rfl, days⟩ := make?_eq_some h
  rw [epochDay, days, Nat.add_sub_cancel]
  exact whole

theorem epochDay_bounds (date : Date) :
    daysBeforeYear date.year ≤ date.epochDay + epochOffset ∧
      date.epochDay + epochOffset < daysBeforeYear (date.year + 1) := by
  have nextYear := daysBeforeYear_succ date.year
  have month := daysBeforeMonth_add_le date.year date.month_mem
  have day := date.day_mem
  have counted : date.epochDay = daysBeforeYear date.year + daysBeforeMonth date.year date.month +
      (date.day - 1 : Nat) - epochOffset := rfl
  constructor <;> omega

theorem inCalendar_epochDay (date : Date) : InCalendar date.epochDay := by
  obtain ⟨early, late⟩ := date.year_mem
  have firstDay : first.epochDay + epochOffset = daysBeforeYear (-262143) := rfl
  have lastDay : last.epochDay + epochOffset + 1 = daysBeforeYear 262143 := rfl
  have started := daysBeforeYear_le early
  have ended := @daysBeforeYear_le (date.year + 1) 262143 (by omega)
  obtain ⟨above, below⟩ := date.epochDay_bounds
  exact ⟨by omega, by omega⟩

theorem ofEpochDay?_of_inCalendar {day : Int} (inside : InCalendar day) :
    ∃ date, ofEpochDay? day = some date := by
  obtain ⟨year, month, inMonth, counted, known, fits, _, above, below⟩ := ofEpochDay?_parts day
  obtain ⟨early, late⟩ := inside
  have firstDay : first.epochDay + epochOffset = daysBeforeYear (-262143) := rfl
  have lastDay : last.epochDay + epochOffset + 1 = daysBeforeYear 262143 := rfl
  have lower : -262143 ≤ year := by
    apply Int.not_lt.mp
    intro before
    have order := @daysBeforeYear_le (year + 1) (-262143) (by omega)
    omega
  have upper : year ≤ 262142 := by
    apply Int.not_lt.mp
    intro after
    have order := @daysBeforeYear_le 262143 year (by omega)
    omega
  refine ⟨⟨year, month, inMonth + 1, ⟨lower, upper⟩, known, by omega⟩, ?_⟩
  rw [counted, make?, dif_pos ⟨⟨lower, upper⟩, known, by omega, by omega⟩]

end TypeBridge.Date
