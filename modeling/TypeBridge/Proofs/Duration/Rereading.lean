import TypeBridge.Duration
import TypeBridge.Proofs.Binary.Rounding
import TypeBridge.Proofs.Text.Numeral
import TypeBridge.Proofs.Text.Spelling

/-!
Durations that are written and read again. Writing keeps the whole milliseconds only, and reading rounds
their nanoseconds to a double; so what comes back is the double nearest to the whole milliseconds, and a
duration survives when it is that double itself. Below two to the power of 53 nanoseconds, which is some
104 days, every whole number is a double, and just the durations of whole milliseconds survive.
-/
namespace TypeBridge.Binary64

open TypeBridge.Binary

theorem nearestWhole_le {number : Nat} (word : number < twoTo 64) :
    nearestWhole number ≤ number + twoTo 11 := by
  have low := log2_lt (by decide) word
  have grouped : twoTo (double.groupingAt number 1) ≤ twoTo 11 := by
    apply Nat.pow_le_pow_right (by decide)
    have bits : double.precision = 53 := rfl
    rw [Format.groupingAt, Nat.div_one, bits]
    omega
  unfold nearestWhole Format.rounded
  rw [Nat.one_mul]
  generalize twoTo (double.groupingAt number 1) = group at grouped ⊢
  calc
    _ ≤ (number / group + 1) * group := Nat.mul_le_mul_right _ (nearestEven_near number group).2
    _ = number / group * group + group := Nat.succ_mul ..
    _ ≤ number + twoTo 11 := Nat.add_le_add (Nat.div_mul_le_self ..) grouped

end TypeBridge.Binary64

namespace TypeBridge.Duration

open TypeBridge.Text TypeBridge.Binary

theorem wholeMagnitude?_of_stands {value : Binary64} {number : Nat} (h : value.Stands number) :
    wholeMagnitude? value = some number := by
  unfold Binary64.Stands at h
  have unit := twoTo_pos double.unitPlaces
  have half : 2 * (number * twoTo double.unitPlaces) + twoTo double.unitPlaces =
      twoTo double.unitPlaces + number * twoTo (double.unitPlaces + 1) := by
    rw [twoTo_succ]
    ring
  have less : twoTo double.unitPlaces < twoTo (double.unitPlaces + 1) := by
    rw [twoTo_succ]
    omega
  rw [wholeMagnitude?, h]
  simp only [half, Nat.add_mul_div_right _ _ (twoTo_pos (double.unitPlaces + 1)), Nat.div_eq_of_lt less,
    Nat.zero_add]

theorem readNumber?_numeral (number : Nat) : readNumber? (numeral number) = some (.ofNat number) := by
  have unpointed : ∀ character ∈ numeral number, (character != '.') = true :=
    bne_of_notMem (notMem_numeral (by decide) number)
  have taken := @List.takeWhile_append_of_pos _ _ _ [] unpointed
  have dropped := @List.dropWhile_append_of_pos _ _ _ [] unpointed
  have digital : (numeral number).all isDigit = true :=
    List.all_eq_true.mpr fun _ member => isDigit_of_mem_numeral member
  have present : (numeral number).isEmpty = false := by simp [numeral_ne_nil]
  unfold readNumber?
  split
  next rest same => exact absurd same (head_numeral_ne (by decide) number rest)
  next rest same => exact absurd same (head_numeral_ne (by decide) number rest)
  next =>
    rw [List.append_nil] at taken dropped
    simp only [readMagnitude?, taken, dropped, List.takeWhile_nil, List.dropWhile_nil, List.drop_nil,
      List.append_nil, present, digital, digitsValue_numeral, Bool.not_true, Bool.or_self,
      Bool.false_eq_true, if_false, List.length_nil]
    rfl

variable {unit : List Char} {number factor : Nat}

theorem ofProduct_ofNat (left : number < twoTo double.precision) (right : factor < twoTo double.precision)
    (room : number * factor + twoTo 11 < twoTo 64) :
    ∃ duration, ofProduct (.ofNat number) factor = .ok duration ∧
      (Binary64.ofNat (number * factor)).Stands duration.nanos := by
  have small : number < twoTo 64 := Nat.lt_trans left (by decide)
  have word : number * factor < twoTo 64 := Nat.lt_of_le_of_lt (Nat.le_add_right ..) room
  have near : Binary64.nearestWhole (number * factor) < twoTo 64 :=
    Nat.lt_of_le_of_lt (Binary64.nearestWhole_le word) room
  have stands := Binary64.stands_ofNat small
  have product := Binary64.stands_ofNat word
  refine ⟨⟨Binary64.nearestWhole (number * factor), near⟩, ?_, product⟩
  rw [ofProduct, stands]
  simp only [Bool.false_and, Bool.false_eq_true, if_false, Binary64.timesNat_ofNat left right,
    wholeMagnitude?_of_stands product, Option.bind_some, ofNanos?, dif_pos near]

def Lettered (unit : List Char) : Prop :=
  unit ≠ [] ∧ ∀ character ∈ unit, character.isAlpha = true ∧ isBlank character = false

theorem parse_numeral (lettered : Lettered unit) (known : unitNanos? (String.ofList unit) = some factor)
    (left : number < twoTo double.precision) (right : factor < twoTo double.precision)
    (room : number * factor + twoTo 11 < twoTo 64) :
    ∃ duration, parse (String.ofList (numeral number ++ unit)) = .ok duration ∧
      (Binary64.ofNat (number * factor)).Stands duration.nanos := by
  obtain ⟨present, letters⟩ := lettered
  have digits : ∀ character ∈ numeral number, (!character.isAlpha) = true := by
    intro character member
    rw [isAlpha_of_isDigit (isDigit_of_mem_numeral member), Bool.not_false]
  have numeralSolid : ∀ character ∈ numeral number, isBlank character = false :=
    fun _ member => isBlank_of_isDigit (isDigit_of_mem_numeral member)
  have solid : ∀ character ∈ numeral number ++ unit, isBlank character = false := by
    intro character member
    rcases List.mem_append.mp member with digit | letter
    · exact numeralSolid character digit
    · exact (letters character letter).2
  cases unit with
  | nil => exact absurd rfl present
  | cons first rest =>
    have begins : first.isAlpha = true := (letters first List.mem_cons_self).1
    -- The number ends where the unit begins, since no digit is a letter.
    have taken : (numeral number ++ first :: rest).takeWhile (!·.isAlpha) = numeral number := by
      rw [List.takeWhile_append_of_pos digits, List.takeWhile_cons, begins]
      exact List.append_nil _
    have dropped : (numeral number ++ first :: rest).dropWhile (!·.isAlpha) = first :: rest := by
      rw [List.dropWhile_append_of_pos digits, List.dropWhile_cons, begins]
      rfl
    have trimmed := trim_of_solid fun character member => (letters character member).2
    simp only [parse, String.toList_ofList, trim_of_solid solid, taken, dropped, trimmed,
      trim_of_solid numeralSolid, readNumber?_numeral, known]
    exact ofProduct_ofNat left right room

theorem format_eq (duration : Duration) :
    duration.format =
      if duration.millis % 1000 = 0 then String.ofList (numeral (duration.millis / 1000) ++ ['s'])
      else String.ofList (numeral duration.millis ++ ['m', 's']) := by
  simp only [String.ofList_append]
  rfl

theorem millis_le (duration : Duration) : duration.millis ≤ 18446744073709 := by
  have word := duration.nanos_lt
  have bound : twoTo 64 = 18446744073709551616 := rfl
  unfold millis
  omega

/-- What is written is read as the double nearest to the whole milliseconds. -/
theorem parse_format (duration : Duration) :
    ∃ again, parse duration.format = .ok again ∧
      (Binary64.ofNat (duration.millis * 1000000)).Stands again.nanos := by
  have most := millis_le duration
  have precision : twoTo double.precision = 9007199254740992 := rfl
  have word : twoTo 64 = 18446744073709551616 := rfl
  have slack : twoTo 11 = 2048 := rfl
  -- Whole milliseconds end well before the word does, so that rounding does not reach its end.
  rw [format_eq]
  split
  next whole =>
    have seconds : duration.millis * 1000000 = duration.millis / 1000 * 1000000000 := by omega
    rw [seconds]
    exact parse_numeral ⟨by decide, by simp [isBlank]⟩ rfl (by omega) (by decide) (by omega)
  next => exact parse_numeral ⟨by decide, by simp [isBlank]⟩ rfl (by omega) (by decide) (by omega)

theorem ext {first second : Duration} (nanos : first.nanos = second.nanos) : first = second := by
  cases first
  cases second
  cases nanos
  rfl

/-- Written and read again, it is the same duration. -/
def Survives (duration : Duration) : Prop := parse duration.format = .ok duration

theorem survives_iff_stands (duration : Duration) :
    duration.Survives ↔ (Binary64.ofNat (duration.millis * 1000000)).Stands duration.nanos := by
  obtain ⟨again, parsed, stands⟩ := parse_format duration
  constructor
  · intro survives
    cases parsed.symm.trans survives
    exact stands
  · intro same
    have found : again = duration := ext (Binary64.stands_unique stands same)
    rw [Survives, parsed, found]

/-- While every whole number is a double, the whole milliseconds survive and no others. -/
theorem survives_iff_dvd {duration : Duration} (short : duration.nanos < twoTo 53) :
    duration.Survives ↔ 1000000 ∣ duration.nanos := by
  have whole : duration.millis * 1000000 ≤ duration.nanos := Nat.div_mul_le_self ..
  have within : duration.millis * 1000000 < twoTo double.precision := Nat.lt_of_le_of_lt whole short
  have stands := Binary64.stands_ofNat (Nat.lt_trans within (by decide))
  rw [Binary64.nearestWhole_self within] at stands
  rw [survives_iff_stands]
  constructor
  · intro same
    exact ⟨duration.millis, (Nat.mul_comm ..).trans (Binary64.stands_unique stands same) |>.symm⟩
  · intro multiple
    have exactly : duration.millis * 1000000 = duration.nanos := Nat.div_mul_cancel multiple
    rwa [exactly] at stands ⊢

theorem format_eq_format_iff (duration other : Duration) :
    duration.format = other.format ↔ duration.millis = other.millis := by
  have apart (seconds millis : Nat) : numeral seconds ++ ['s'] ≠ numeral millis ++ ['m', 's'] := by
    intro same
    rw [List.append_cons (numeral millis) 'm'] at same
    have digits : numeral seconds = numeral millis ++ ['m'] := List.append_cancel_right same
    exact notMem_numeral (by decide) seconds (digits ▸ List.mem_append_right _ List.mem_cons_self)
  constructor
  · intro same
    rw [format_eq, format_eq] at same
    split at same <;> split at same <;> have chars := String.ofList_injective same
    · have seconds := numeral_injective (List.append_cancel_right chars)
      omega
    · exact absurd chars (apart _ _)
    · exact absurd chars.symm (apart _ _)
    · exact numeral_injective (List.append_cancel_right chars)
  · intro same
    rw [format_eq, format_eq, same]

/-- What is written is always read again, as the double nearest to the whole milliseconds. So a duration
survives just when it is that double; below two to the power of 53 nanoseconds, when it has whole
milliseconds. And two durations are written alike just when they have the same whole milliseconds. -/
theorem written_duration_survives_iff (duration other : Duration) :
    (∃ again, parse duration.format = .ok again ∧
        (Binary64.ofNat (duration.millis * 1000000)).Stands again.nanos) ∧
      (duration.Survives ↔ (Binary64.ofNat (duration.millis * 1000000)).Stands duration.nanos) ∧
      (duration.nanos < twoTo 53 → (duration.Survives ↔ 1000000 ∣ duration.nanos)) ∧
      (duration.format = other.format ↔ duration.millis = other.millis) :=
  ⟨parse_format duration, survives_iff_stands duration, survives_iff_dvd,
    format_eq_format_iff duration other⟩

def oneAndHalfSeconds : Duration := ⟨1500000000, by decide⟩

theorem written_duration_survives_iff_seconds :
    oneAndHalfSeconds.nanos < twoTo 53 ∧ oneAndHalfSeconds.Survives ∧
      oneAndHalfSeconds.format = "1500ms" := by
  have survives := (written_duration_survives_iff oneAndHalfSeconds oneAndHalfSeconds).2.2.1 (by decide)
  exact ⟨by decide, survives.mpr (by decide), by decide⟩

def oneAndHalfMillis : Duration := ⟨1500000, by decide⟩

def oneMilli : Duration := ⟨1000000, by decide⟩

/-- A millisecond and a half is written as one millisecond. -/
theorem halfMillisecond_lost :
    parse "1.5ms" = .ok oneAndHalfMillis ∧ parse oneAndHalfMillis.format = .ok oneMilli ∧
      parse "1ms" = .ok oneMilli ∧ oneAndHalfMillis.format = oneMilli.format := by
  decide +kernel

end TypeBridge.Duration
