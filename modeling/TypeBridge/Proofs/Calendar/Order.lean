import TypeBridge.Proofs.Calendar.Days

/-!
The order of dates. Days are numbered in the order of the dates, so that no two dates share a number and
each is found by its own; the day after a date has the next number.
-/
namespace TypeBridge.Date

variable {left right date following : Date}

theorem daysBeforeMonth_succ (year : Int) {month : Nat} (known : 1 ≤ month) :
    daysBeforeMonth year (month + 1) = daysBeforeMonth year month + daysInMonth year month := by
  obtain ⟨passed, rfl⟩ : ∃ passed, month = passed + 1 := ⟨month - 1, by omega⟩
  change ((monthLengths (isLeapYear year)).take (passed + 1)).sum =
    ((monthLengths (isLeapYear year)).take passed).sum + (monthLengths (isLeapYear year)).getD passed 0
  rw [List.take_add_one, List.sum_append, List.getD_eq_getElem?_getD]
  cases (monthLengths (isLeapYear year))[passed]? with
  | none => rfl
  | some length => simp

theorem daysBeforeMonth_le (year : Int) {earlier later : Nat} (known : 1 ≤ earlier)
    (order : earlier ≤ later) : daysBeforeMonth year earlier ≤ daysBeforeMonth year later := by
  induction order with
  | refl => exact Nat.le_refl _
  | @step month order ih =>
    rw [daysBeforeMonth_succ year (Nat.le_trans known order)]
    exact Nat.le_trans ih (Nat.le_add_right ..)

theorem daysInMonth_pos (year : Int) {month : Nat} (known : 1 ≤ month ∧ month ≤ 12) :
    1 ≤ daysInMonth year month := by
  have least : ∀ (leap : Bool) (passed : Fin 12), 1 ≤ (monthLengths leap).getD passed 0 := by decide
  exact least (isLeapYear year) ⟨month - 1, by omega⟩

theorem daysBeforeMonth_thirteen (year : Int) : daysBeforeMonth year 13 = daysInYear year :=
  sum_monthLengths year

theorem before_trichotomy (left right : Date) :
    left.before right ∨ left = right ∨ right.before left := by
  rcases Int.lt_trichotomy left.year right.year with earlier | sameYear | later
  · exact .inl (.inl earlier)
  · rcases Nat.lt_trichotomy left.month right.month with earlier | sameMonth | later
    · exact .inl (.inr ⟨sameYear, .inl earlier⟩)
    · rcases Nat.lt_trichotomy left.day right.day with earlier | sameDay | later
      · exact .inl (.inr ⟨sameYear, .inr ⟨sameMonth, earlier⟩⟩)
      · refine .inr (.inl ?_)
        cases left
        cases right
        subst sameYear sameMonth sameDay
        rfl
      · exact .inr (.inr (.inr ⟨sameYear.symm, .inr ⟨sameMonth.symm, later⟩⟩))
    · exact .inr (.inr (.inr ⟨sameYear.symm, .inl later⟩))
  · exact .inr (.inr (.inl later))

theorem epochDay_lt_of_before (order : left.before right) : left.epochDay < right.epochDay := by
  obtain ⟨leftStarts, leftFits⟩ := left.day_mem
  obtain ⟨rightStarts, -⟩ := right.day_mem
  rcases order with years | ⟨sameYear, months | ⟨sameMonth, days⟩⟩
  · apply Int.lt_of_add_lt_add_right
    calc left.epochDay + epochOffset
      _ < daysBeforeYear (left.year + 1) := left.epochDay_bounds.2
      _ ≤ daysBeforeYear right.year := daysBeforeYear_le years
      _ ≤ right.epochDay + epochOffset := right.epochDay_bounds.1
  · have ended := daysBeforeMonth_succ left.year left.month_mem.1
    have between := daysBeforeMonth_le left.year (Nat.le_add_left 1 left.month) months
    rw [epochDay, epochDay, ← sameYear]
    omega
  · rw [epochDay, epochDay, ← sameYear, ← sameMonth]
    omega

theorem before_iff : left.before right ↔ left.epochDay < right.epochDay := by
  constructor
  · exact epochDay_lt_of_before
  · intro less
    rcases before_trichotomy left right with earlier | same | later
    · exact earlier
    · subst same
      exact absurd less (Int.lt_irrefl _)
    · exact absurd (epochDay_lt_of_before later) (Int.not_lt.mpr (Int.le_of_lt less))

theorem epochDay_injective (same : left.epochDay = right.epochDay) : left = right := by
  rcases before_trichotomy left right with earlier | equal | later
  · exact absurd same (Int.ne_of_lt (epochDay_lt_of_before earlier))
  · exact equal
  · exact absurd same.symm (Int.ne_of_lt (epochDay_lt_of_before later))

theorem ofEpochDay?_epochDay (date : Date) : ofEpochDay? date.epochDay = some date := by
  obtain ⟨found, counted⟩ := ofEpochDay?_of_inCalendar date.inCalendar_epochDay
  rw [counted, epochDay_injective (epochDay_ofEpochDay? counted)]

theorem ofEpochDay?_eq_some {day : Int} : ofEpochDay? day = some date ↔ date.epochDay = day := by
  constructor
  · exact epochDay_ofEpochDay?
  · rintro rfl
    exact ofEpochDay?_epochDay date

theorem exists_ofEpochDay? {day : Int} : (∃ date, ofEpochDay? day = some date) ↔ InCalendar day := by
  constructor
  · rintro ⟨date, found⟩
    rw [← epochDay_ofEpochDay? found]
    exact date.inCalendar_epochDay
  · exact ofEpochDay?_of_inCalendar

theorem ofEpochDay?_eq_none {day : Int} : ofEpochDay? day = none ↔ ¬InCalendar day := by
  rw [← exists_ofEpochDay?, Option.eq_none_iff_forall_ne_some, not_exists]

/-- The day after a date: the next of its month, or else the first of the next month, or else the first of
the next year. -/
def next? (date : Date) : Option Date :=
  (make? date.year date.month (date.day + 1)).or
    ((make? date.year (date.month + 1) 1).or (make? (date.year + 1) 1 1))

theorem make?_eq_none {year : Int} {month day : Nat} : make? year month day = none ↔
    ¬((-262143 ≤ year ∧ year ≤ 262142) ∧ (1 ≤ month ∧ month ≤ 12) ∧
      (1 ≤ day ∧ day ≤ daysInMonth year month)) := by
  unfold make?
  split
  next known => simp [known]
  next unknown => simp [unknown]

theorem day_of_make?_none (h : make? date.year date.month (date.day + 1) = none) :
    date.day = daysInMonth date.year date.month := by
  have year := date.year_mem
  have month := date.month_mem
  have day := date.day_mem
  rw [make?_eq_none] at h
  omega

theorem month_of_make?_none (h : make? date.year (date.month + 1) 1 = none) : date.month = 12 := by
  have year := date.year_mem
  have month := date.month_mem
  have starts := @daysInMonth_pos date.year (date.month + 1)
  rw [make?_eq_none] at h
  omega

theorem epochDay_next? (h : date.next? = some following) :
    following.epochDay = date.epochDay + 1 := by
  have starts := date.day_mem.1
  rcases Option.or_eq_some_iff.mp h with sameMonth | ⟨monthEnds, h⟩
  · obtain ⟨year, month, day⟩ := make?_eq_some sameMonth
    rw [epochDay, epochDay, year, month, day]
    omega
  have ends := day_of_make?_none monthEnds
  have nextMonth := daysBeforeMonth_succ date.year date.month_mem.1
  rcases Option.or_eq_some_iff.mp h with sameYear | ⟨yearEnds, newYear⟩
  · obtain ⟨year, month, day⟩ := make?_eq_some sameYear
    rw [epochDay, epochDay, year, month, day]
    omega
  · obtain ⟨year, month, day⟩ := make?_eq_some newYear
    have december := month_of_make?_none yearEnds
    have january : daysBeforeMonth (date.year + 1) 1 = 0 := rfl
    rw [december, daysBeforeMonth_thirteen] at nextMonth
    rw [december] at ends
    rw [epochDay, epochDay, year, month, day, daysBeforeYear_succ, january, december]
    omega

theorem next?_eq_none : date.next? = none ↔ date = last := by
  constructor
  · intro h
    obtain ⟨monthEnds, h⟩ := Option.or_eq_none_iff.mp h
    obtain ⟨yearEnds, calendarEnds⟩ := Option.or_eq_none_iff.mp h
    have month := month_of_make?_none yearEnds
    have day := day_of_make?_none monthEnds
    have known := date.year_mem
    have starts := @daysInMonth_pos (date.year + 1) 1 (by decide)
    rw [make?_eq_none] at calendarEnds
    have year : date.year = 262142 := by omega
    rw [year, month] at day
    cases date
    subst year month day
    rfl
  · rintro rfl
    rfl

end TypeBridge.Date
