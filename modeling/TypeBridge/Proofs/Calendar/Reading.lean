import Mathlib.Data.List.Basic
import TypeBridge.Calendar.Text
import TypeBridge.Proofs.Calendar.Instants
import TypeBridge.Proofs.Text.Numeral

/-!
Dates and date-times read from text: a year with an optional sign, then month, day, hour, minute and
second with two digits each, then a fraction of up to nine digits. The texts that are written for
statements read as the date or the date-time that they were written for, in every year of the calendar.
-/
namespace TypeBridge

open TypeBridge.Text

def TimeOfDay.fractionDigits (time : TimeOfDay) : List Char := trimmed 9 time.fraction

theorem TimeOfDay.fraction_lt (time : TimeOfDay) : time.fraction < tenTo 9 :=
  Nat.mod_lt _ (by decide)

namespace DateTime

theorem fraction_eq (stamp : DateTime) : (stamp.time.fraction : Int) = stamp.epochNano % 1000000000 := by
  rw [TimeOfDay.fraction, epochNano]
  omega

theorem chars_of_whole {stamp : DateTime} (whole : stamp.time.fraction = 0) :
    stamp.chars = stamp.secondChars := by
  rw [chars, TimeOfDay.shortFraction, if_pos whole, List.append_nil]

end DateTime

/-- What a text says. A date-time comes with the digits that its fraction has in the text. -/
inductive Moment where
  | date (date : Date)
  | dateTime (value : DateTime) (fraction : List Char)

namespace Moment

def skip? (mark : Char) : List Char → Option (List Char)
  | first :: rest => if first = mark then some rest else none
  | [] => none

def readNumber? (text : List Char) : Option (Nat × List Char) :=
  (readDigits? (text.takeWhile isDigit)).map fun value => (value, text.dropWhile isDigit)

def readTwo? : List Char → Option (Nat × List Char)
  | tens :: ones :: rest => (readDigits? [tens, ones]).map fun value => (value, rest)
  | _ => none

def readYear? : List Char → Option (Int × List Char)
  | '-' :: text => (readNumber? text).map fun (year, rest) => (-(year : Int), rest)
  | '+' :: text => (readNumber? text).map fun (year, rest) => ((year : Int), rest)
  | text => (readNumber? text).map fun (year, rest) => ((year : Int), rest)

def readDate? (text : List Char) : Option (Date × List Char) := do
  let (year, text) ← readYear? text
  let (month, text) ← readTwo? (← skip? '-' text)
  let (day, text) ← readTwo? (← skip? '-' text)
  return (← Date.make? year month day, text)

def readFraction? : List Char → Option (List Char)
  | [] => some []
  | '.' :: digits =>
    if digits.isEmpty || !digits.all isDigit || 9 < digits.length then none else some digits
  | _ => none

def readTime? (text : List Char) : Option (TimeOfDay × List Char) := do
  let (hour, text) ← readTwo? text
  let (minute, text) ← readTwo? (← skip? ':' text)
  let (second, text) ← readTwo? (← skip? ':' text)
  let fraction ← readFraction? text
  if hour < 24 ∧ minute < 60 ∧ second < 60 then
    let time ← TimeOfDay.make? (3600 * hour + 60 * minute + second)
      (digitsValue fraction * tenTo (9 - fraction.length))
    return (time, fraction)
  else none

def read? (text : List Char) : Option Moment := do
  let (day, text) ← readDate? text
  match text with
  | [] => return .date day
  | _ =>
    let (time, fraction) ← readTime? (← skip? ' ' text)
    return .dateTime ⟨day, time⟩ fraction

theorem skip?_self (mark : Char) (rest : List Char) : skip? mark (mark :: rest) = some rest := if_pos rfl

theorem readNumber?_padZeros (width value : Nat) {rest : List Char}
    (ends : ∀ next ∈ rest.head?, isDigit next = false) :
    readNumber? (padZeros width (numeral value) ++ rest) = some (value, rest) := by
  have digits : ∀ digit ∈ padZeros width (numeral value), isDigit digit = true :=
    fun _ member => isDigit_of_mem_padZeros member
  have stops : rest.takeWhile isDigit = [] ∧ rest.dropWhile isDigit = rest := by
    cases rest with
    | nil => exact ⟨rfl, rfl⟩
    | cons next rest => simp [ends next rfl]
  rw [readNumber?, List.takeWhile_append_of_pos digits, List.dropWhile_append_of_pos digits, stops.1,
    stops.2, List.append_nil, readDigits?_padZeros]
  rfl

theorem readTwo?_twoDigits {value : Nat} (small : value < 100) (rest : List Char) :
    readTwo? (twoDigits value ++ rest) = some (value, rest) := by
  obtain ⟨tens, ones, same⟩ := List.length_eq_two.mp (length_padZeros (by decide) small)
  have read := readDigits?_padZeros 2 value
  rw [twoDigits, same] at *
  simp only [List.cons_append, List.nil_append, readTwo?, read]
  rfl

theorem readYear?_yearText (year : Int) {rest : List Char}
    (ends : ∀ next ∈ rest.head?, isDigit next = false) :
    readYear? (yearText year ++ rest) = some (year, rest) := by
  unfold yearText
  split
  next plain =>
    have number := readNumber?_padZeros 4 year.toNat ends
    have first : ∀ mark, isDigit mark = false → ∀ others,
        padZeros 4 (numeral year.toNat) ++ rest ≠ mark :: others := by
      intro mark noDigit others same
      obtain ⟨digit, digits, parts⟩ := List.exists_cons_of_ne_nil (padZeros_ne_nil 4 year.toNat)
      rw [parts, List.cons_append] at same
      have isDigit := @isDigit_of_mem_padZeros 4 year.toNat digit (parts ▸ List.mem_cons_self ..)
      rw [List.head_eq_of_cons_eq same, noDigit] at isDigit
      cases isDigit
    unfold readYear?
    split
    next text same => exact absurd same (first '-' rfl _)
    next text same => exact absurd same (first '+' rfl _)
    next =>
      rw [number]
      have whole : (year.toNat : Int) = year := by omega
      simp only [Option.map_some, whole]
  next signed =>
    have number := readNumber?_padZeros 4 year.natAbs ends
    by_cases before : year < 0
    · have whole : -(year.natAbs : Int) = year := by omega
      simp only [if_pos before, List.cons_append, readYear?, number, Option.map_some, whole]
    · have whole : (year.natAbs : Int) = year := by omega
      simp only [if_neg before, List.cons_append, readYear?, number, Option.map_some, whole]

theorem readDate?_chars (date : Date) (rest : List Char) :
    readDate? (date.chars ++ rest) = some (date, rest) := by
  have longest := Date.daysInMonth_le date.year date.month
  have month : date.month < 100 := Nat.lt_of_le_of_lt date.month_mem.2 (by decide)
  have day : date.day < 100 := Nat.lt_of_le_of_lt date.day_mem.2 (by omega)
  have year := @readYear?_yearText date.year
    ('-' :: (twoDigits date.month ++ '-' :: (twoDigits date.day ++ rest))) (by simp; rfl)
  simp only [readDate?, Date.chars, List.append_assoc, List.cons_append, year, skip?_self,
    readTwo?_twoDigits month, readTwo?_twoDigits day, Date.make?_self, Option.bind_eq_bind, Option.bind_some,
    Option.pure_def]

theorem read?_date (date : Date) : read? date.chars = some (.date date) := by
  have dated := readDate?_chars date []
  rw [List.append_nil] at dated
  rw [read?, dated]
  rfl

theorem readFraction?_shortFraction (time : TimeOfDay) :
    readFraction? time.shortFraction = some time.fractionDigits := by
  obtain ⟨within, whole⟩ := trimmed_append_zeros (by decide) time.fraction_lt
  have value := digitsValue_trimmed (by decide) time.fraction_lt
  unfold TimeOfDay.shortFraction
  split
  next zero =>
    have none : time.fractionDigits = [] := by
      rw [TimeOfDay.fractionDigits, zero]
      rfl
    rw [none]
    rfl
  next some =>
    have present : time.fractionDigits.isEmpty = false := by
      rw [List.isEmpty_eq_false_iff]
      intro empty
      rw [TimeOfDay.fractionDigits] at empty
      rw [empty] at value
      simp [digitsValue, digitsFrom] at value
      omega
    have digits : time.fractionDigits.all isDigit = true :=
      List.all_eq_true.mpr fun _ member => isDigit_of_mem_trimmed member
    change readFraction? ('.' :: time.fractionDigits) = _
    have short : ¬9 < time.fractionDigits.length := Nat.not_lt.mpr within
    simp [readFraction?, present, digits, short]

theorem readTime?_chars {time : TimeOfDay} (plain : time.isLeap = false) :
    readTime? (time.chars ++ time.shortFraction) = some (time, time.fractionDigits) := by
  rw [TimeOfDay.isLeap_eq_false] at plain
  have inDay := time.second_lt
  have noLeap : time.nanosecond / 1000000000 = 0 := Nat.div_eq_of_lt plain
  have hour : time.hourOfDay < 24 := by
    rw [TimeOfDay.hourOfDay]
    omega
  have minute : time.minuteOfHour < 60 := Nat.mod_lt _ (by decide)
  have second : time.secondOfMinute < 60 := Nat.mod_lt _ (by decide)
  have whole : 3600 * time.hourOfDay + 60 * time.minuteOfHour + time.secondOfMinute = time.second := by
    simp only [TimeOfDay.hourOfDay, TimeOfDay.minuteOfHour, TimeOfDay.secondOfMinute]
    omega
  have nanos : digitsValue time.fractionDigits * tenTo (9 - time.fractionDigits.length) =
      time.nanosecond := by
    rw [TimeOfDay.fractionDigits, digitsValue_trimmed (by decide) time.fraction_lt]
    exact Nat.mod_eq_of_lt plain
  have made := TimeOfDay.make?_of_lt inDay plain
  simp only [readTime?, TimeOfDay.chars, noLeap, Nat.add_zero, List.append_assoc, List.cons_append,
    skip?_self, readTwo?_twoDigits (show time.hourOfDay < 100 by omega),
    readTwo?_twoDigits (show time.minuteOfHour < 100 by omega),
    readTwo?_twoDigits (show time.secondOfMinute < 100 by omega), readFraction?_shortFraction,
    Option.bind_eq_bind, Option.bind_some, Option.pure_def, hour, minute, second, and_self, ↓reduceIte,
    whole, nanos, made]

theorem read?_dateTime {value : DateTime} (plain : value.isLeap = false) :
    read? value.chars = some (.dateTime value value.time.fractionDigits) := by
  have dated := readDate?_chars value.date (' ' :: (value.time.chars ++ value.time.shortFraction))
  rw [read?, DateTime.chars, DateTime.secondChars, List.append_assoc, List.cons_append, dated]
  simp only [Option.bind_eq_bind, Option.bind_some, skip?_self, readTime?_chars plain]
  rfl

end Moment

end TypeBridge
