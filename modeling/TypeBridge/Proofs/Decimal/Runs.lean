import TypeBridge.Proofs.Decimal.Written

/-!
How the digits of a number are read. Each character moves on what has been read so far, as long as there
is a place for it. The digits before the point have to fit in; after the point they are cut off at the
first one that there is no place for, and so is what follows them.
-/
namespace TypeBridge.Decimal

open TypeBridge.Text

namespace Reading

def advance (reading : Reading) (digits : List Char) : Reading :=
  { reading with
    started := reading.started || digits.any isDigit
    coefficient := digitsFrom reading.coefficient (digits.filter isDigit)
    scale := reading.scale + if reading.point then (digits.filter isDigit).length else 0 }

def Ready (reading : Reading) (digits : List Char) : Prop :=
  reading.started = false → ∀ first ∈ digits.head?, isDigit first = true

variable {reading : Reading} {digits more : List Char} {character : Char}

theorem advance_nil : reading.advance [] = reading := by
  simp [advance, digitsFrom]

theorem advance_append (digits more : List Char) :
    reading.advance (digits ++ more) = (reading.advance digits).advance more := by
  cases point : reading.point <;>
    simp [advance, point, digitsFrom, Bool.or_assoc, Nat.add_assoc]

theorem advance_cons (character : Char) (digits : List Char) :
    reading.advance (character :: digits) = (reading.advance [character]).advance digits :=
  advance_append [character] digits

theorem coefficient_advance (digits : List Char) :
    (reading.advance digits).coefficient = reading.coefficient * tenTo (digits.filter isDigit).length +
      digitsValue (digits.filter isDigit) :=
  digitsFrom_eq _ _

theorem coefficient_le_advance (digits : List Char) :
    reading.coefficient ≤ (reading.advance digits).coefficient := by
  rw [coefficient_advance]
  exact Nat.le_trans (Nat.le_mul_of_pos_right _ (tenTo_pos _)) (Nat.le_add_right _ _)

theorem scale_le_advance (digits : List Char) : reading.scale ≤ (reading.advance digits).scale :=
  Nat.le_add_right _ _

theorem scale_advance (after : reading.point = true) (digits : List Char) :
    (reading.advance digits).scale = reading.scale + (digits.filter isDigit).length := by
  rw [advance, after]
  rfl

theorem unscaled_advance (unscaled : reading.point = false → reading.scale = 0) (digits : List Char) :
    (reading.advance digits).point = false → (reading.advance digits).scale = 0 := by
  intro before
  have none : reading.point = false := before
  simp [advance, none, unscaled none]

theorem ready_advance (ready : reading.Ready (character :: digits)) :
    (reading.advance [character]).Ready digits := by
  intro fresh
  simp only [advance, List.any_cons, List.any_nil, Bool.or_false, Bool.or_eq_false_iff] at fresh
  rw [ready fresh.1 character rfl] at fresh
  cases fresh.2

theorem ready_of_append (ready : reading.Ready (digits ++ more)) : reading.Ready digits := by
  intro fresh first head
  apply ready fresh first
  rw [List.head?_append, Option.mem_def.mp head]
  rfl

theorem ready_advance_append (ready : reading.Ready (digits ++ more)) :
    (reading.advance digits).Ready more := by
  induction digits generalizing reading with
  | nil => rwa [advance_nil]
  | cons character digits ih =>
    rw [advance_cons]
    exact ih (ready_advance ready)

theorem run_cons (digital : isDigital character = true) (ready : reading.Ready (character :: digits))
    (unscaled : reading.point = false → reading.scale = 0)
    (room : reading.point = true → reading.scale < maxScale)
    (fits : (reading.advance [character]).coefficient ≤ maxCoefficient) (tail : List Char) :
    reading.run (character :: tail) = (reading.advance [character]).run tail := by
  have going : ¬(reading.point && decide (maxScale ≤ reading.scale)) = true := by
    simp only [Bool.and_eq_true, decide_eq_true_eq]
    intro full
    exact absurd full.2 (Nat.not_le.mpr (room full.1))
  rw [run, if_neg going]
  by_cases digit : isDigit character = true
  · have taken : 10 * reading.coefficient + digitValue character ≤ maxCoefficient := by
      simpa [advance, digit, digitsFrom] using fits
    rw [if_pos digit]
    dsimp only
    rw [if_pos taken]
    cases point : reading.point <;> simp_all [advance, digitsFrom]
  · have separator : character = '_' := by simpa [isDigital, digit] using digital
    subst separator
    have started : reading.started = true := by
      by_contra fresh
      exact digit (ready (by simpa using fresh) '_' rfl)
    have same : reading.advance ['_'] = reading := by
      obtain ⟨negative, _, point, coefficient, scale⟩ := reading
      cases started
      simp [advance, digit, digitsFrom]
    rw [same]
    simp [digit, started]

/-- There is a place for all of the digits: the coefficient has room for them, and if they come after the
point there are fewer than 28 before the last character. -/
def Takes (reading : Reading) (digits : List Char) : Prop :=
  (reading.advance digits).coefficient ≤ maxCoefficient ∧
    (reading.point = true → digits = [] ∨ (reading.advance digits.dropLast).scale < maxScale)

theorem takes_nil (known : reading.coefficient ≤ maxCoefficient) : reading.Takes [] :=
  ⟨by rwa [advance_nil], fun _ => .inl rfl⟩

theorem takes_cons_iff (first : Char) (digits : List Char) :
    reading.Takes (first :: digits) ↔
      (reading.point = true → reading.scale < maxScale) ∧ (reading.advance [first]).Takes digits := by
  have later : (reading.advance [first]).point = reading.point := rfl
  unfold Takes
  rw [advance_cons, later]
  cases digits with
  | nil => simp [advance_nil, and_comm]
  | cons second digits =>
    rw [List.dropLast_cons_cons, advance_cons first (second :: digits).dropLast]
    simp only [reduceCtorEq, false_or]
    refine ⟨fun ⟨fits, few⟩ => ⟨fun after => ?_, fits, few⟩, fun ⟨_, takes⟩ => takes⟩
    exact Nat.lt_of_le_of_lt (Nat.le_trans (scale_le_advance _) (scale_le_advance _)) (few after)

theorem scale_le_of_takes (after : reading.point = true) (few : reading.scale ≤ maxScale)
    (takes : reading.Takes digits) : (reading.advance digits).scale ≤ maxScale := by
  rcases List.eq_nil_or_concat digits with rfl | ⟨front, last, rfl⟩
  · rwa [advance_nil]
  · have less := (takes.2 after).resolve_left (by simp)
    have one : ([last].filter isDigit).length ≤ 1 := List.length_filter_le _ [last]
    rw [List.concat_eq_append, List.dropLast_concat, scale_advance after] at less
    rw [List.concat_eq_append, scale_advance after, List.filter_append, List.length_append]
    omega

theorem run_takes (digital : digits.all isDigital = true) (ready : reading.Ready digits)
    (unscaled : reading.point = false → reading.scale = 0) (takes : reading.Takes digits)
    (tail : List Char) : reading.run (digits ++ tail) = (reading.advance digits).run tail := by
  induction digits generalizing reading with
  | nil => rw [advance_nil, List.nil_append]
  | cons character digits ih =>
    obtain ⟨room, rest⟩ := (takes_cons_iff character digits).mp takes
    simp only [List.all_cons, Bool.and_eq_true] at digital
    have fits := Nat.le_trans (coefficient_le_advance digits) rest.1
    rw [List.cons_append, run_cons digital.1 ready unscaled room fits,
      ih digital.2 (ready_advance ready) (unscaled_advance unscaled [character]) rest, ← advance_cons]

theorem wide_of_not_fits (known : reading.coefficient ≤ maxCoefficient)
    (past : ¬(reading.advance [character]).coefficient ≤ maxCoefficient) :
    isDigit character = true ∧ maxCoefficient < 10 * reading.coefficient + digitValue character := by
  have digit : isDigit character = true := by
    by_contra other
    exact past (by simpa [advance, other, digitsFrom] using known)
  exact ⟨digit, by simpa [advance, digit, digitsFrom] using past⟩

theorem run_whole_full (digital : digits.all isDigital = true) (ready : reading.Ready digits)
    (before : reading.point = false) (unscaled : reading.point = false → reading.scale = 0)
    (known : reading.coefficient ≤ maxCoefficient)
    (full : maxCoefficient < (reading.advance digits).coefficient) (tail : List Char) :
    reading.run (digits ++ tail) = .error .tooManyDigits := by
  induction digits generalizing reading with
  | nil =>
    rw [advance_nil] at full
    omega
  | cons character digits ih =>
    simp only [List.all_cons, Bool.and_eq_true] at digital
    by_cases fits : (reading.advance [character]).coefficient ≤ maxCoefficient
    · rw [advance_cons] at full
      rw [List.cons_append, run_cons digital.1 ready unscaled (by simp [before]) fits]
      exact ih digital.2 (ready_advance ready) before (unscaled_advance unscaled [character]) fits full
    · -- The first digit that does not fit in ends the run; without a point it is not rounded.
      obtain ⟨digit, past⟩ := wide_of_not_fits known fits
      rw [List.cons_append, run, if_neg (by simp [before]), if_pos digit]
      dsimp only
      rw [if_neg (Nat.not_le.mpr past), if_neg (by simp [before])]

/-- After the point the digits end before a character: there are 28 of them, or the coefficient has no room
for one more. -/
def EndsAt (reading : Reading) (character : Char) : Prop :=
  maxScale ≤ reading.scale ∨
    isDigit character = true ∧ maxCoefficient < 10 * reading.coefficient + digitValue character

theorem run_of_endsAt (after : reading.point = true) (ends : reading.EndsAt character) (tail : List Char) :
    reading.run (character :: tail) = reading.roundOff character := by
  rw [run]
  by_cases full : maxScale ≤ reading.scale
  · rw [if_pos (by simp [after, full])]
  · obtain ⟨digit, past⟩ := ends.resolve_left full
    rw [if_neg (by simp [full]), if_pos digit]
    dsimp only
    rw [if_neg (Nat.not_le.mpr past), if_pos after]

/-- All digits have their place, or those up to the first that has none. -/
theorem takes_or_ends (digits : List Char) (known : reading.coefficient ≤ maxCoefficient) :
    reading.Takes digits ∨ ∃ taken character dropped, digits = taken ++ character :: dropped ∧
      reading.Takes taken ∧ (reading.advance taken).EndsAt character := by
  induction digits generalizing reading with
  | nil => exact .inl (takes_nil known)
  | cons first digits ih =>
    have here (ends : reading.EndsAt first) :
        ∃ taken character dropped, first :: digits = taken ++ character :: dropped ∧
          reading.Takes taken ∧ (reading.advance taken).EndsAt character :=
      ⟨[], first, digits, rfl, takes_nil known, advance_nil.symm ▸ ends⟩
    by_cases room : reading.scale < maxScale
    · by_cases fits : (reading.advance [first]).coefficient ≤ maxCoefficient
      · rcases ih fits with takes | ⟨taken, character, dropped, rfl, takes, ends⟩
        · exact .inl ((takes_cons_iff first digits).mpr ⟨fun _ => room, takes⟩)
        · exact .inr ⟨first :: taken, character, dropped, rfl,
            (takes_cons_iff first taken).mpr ⟨fun _ => room, takes⟩, advance_cons first taken ▸ ends⟩
      · exact .inr (here (.inr (wide_of_not_fits known fits)))
    · exact .inr (here (.inl (Nat.le_of_not_lt room)))

theorem run_point (before : reading.point = false) (tail : List Char) :
    reading.run ('.' :: tail) = Reading.run { reading with point := true } tail := by
  rw [run, if_neg (by simp [before]), if_neg (by decide), if_pos (by simp [before])]

theorem run_mark {mark : Char} (h : isExponentMark mark = true) (tail : List Char) (value : Decimal) :
    reading.run (mark :: tail) ≠ .ok value := by
  have marks : mark = 'e' ∨ mark = 'E' := by simpa [isExponentMark] using h
  rw [run]
  split
  · rcases marks with rfl | rfl <;> exact nofun
  · rcases marks with rfl | rfl <;> simp [isDigit]

def start (negative : Bool) : Reading := ⟨negative, false, false, 0, 0⟩

end Reading

theorem readPlain_eq {text : List Char} (present : text ≠ []) :
    readPlain text = (Reading.start (takeSign text).1).run (takeSign text).2 := by
  unfold readPlain
  split
  next => exact absurd rfl present
  next => rfl
  next => rfl
  next notMinus notPlus =>
    rw [takeSign_unsigned]
    · rfl
    · exact fun head => (List.head?_eq_some_iff.mp head).elim notMinus
    · exact fun head => (List.head?_eq_some_iff.mp head).elim notPlus

namespace Written

def pointed (written : Written) : Reading :=
  { (Reading.start written.negative).advance written.whole with point := true }

theorem coefficient_pointed (written : Written) (digits : List Char) :
    (written.pointed.advance digits).coefficient =
      digitsValue ((written.whole ++ digits).filter isDigit) := by
  simp [pointed, Reading.advance, Reading.start, digitsValue, digitsFrom]

theorem scale_pointed (written : Written) (digits : List Char) :
    (written.pointed.advance digits).scale = (digits.filter isDigit).length := by
  simp [pointed, Reading.advance, Reading.start]

theorem takes_pointed_iff (written : Written) :
    written.pointed.Takes written.fraction ↔ written.Whole := by
  have after : written.pointed.point = true := rfl
  rw [Reading.Takes, Whole, coefficient_pointed, scale_pointed, coefficient, after, imp_iff_right rfl]
  refine and_congr_right fun _ => or_iff_right_of_imp fun none => ?_
  rw [none]
  decide

end Written

variable {written : Written} {text mantissa tail : List Char}

/-- How what stands before the exponent is read, whatever follows: to its end, up to a character that
there is no place for, or not at all. -/
inductive MantissaRun (written : Written) (mantissa : List Char) : Prop where
  | whole (final : Reading) (fits : written.Whole) (sign : final.negative = written.negative)
      (digits : final.coefficient = written.coefficient) (places : final.scale = written.places)
      (few : final.scale ≤ maxScale)
      (run : ∀ tail, (Reading.start written.negative).run (mantissa ++ tail) = final.run tail)
  | cut (final : Reading) (character : Char) (dropped : List Char) (more : ¬written.Whole)
      (sign : final.negative = written.negative) (after : final.point = true)
      (known : final.coefficient ≤ maxCoefficient) (few : final.scale ≤ maxScale)
      (ends : final.EndsAt character)
      (digits : (final.advance (character :: dropped)).coefficient = written.coefficient)
      (places : (final.advance (character :: dropped)).scale = written.places)
      (run : ∀ tail, (Reading.start written.negative).run (mantissa ++ tail) = final.roundOff character)
  | refused (run : ∀ tail, (Reading.start written.negative).run (mantissa ++ tail) = .error .tooManyDigits)

namespace Spells

theorem readPlain_eq (spells : Spells written text mantissa tail) :
    readPlain text = (Reading.start written.negative).run (mantissa ++ tail) := by
  rw [Decimal.readPlain_eq, spells.sign]
  rintro rfl
  have body := congrArg Prod.snd spells.sign
  exact spells.mantissa_ne_nil (List.append_eq_nil_iff.mp body.symm).1

theorem readPlain_cut (spells : Spells written text mantissa tail) :
    readPlain (text.takeWhile (!isExponentMark ·)) =
      (Reading.start written.negative).run (mantissa ++ []) := by
  have sign := spells.cut.1
  rw [Decimal.readPlain_eq, sign]
  intro none
  rw [none] at sign
  exact spells.mantissa_ne_nil (List.append_eq_nil_iff.mp (congrArg Prod.snd sign).symm).1

theorem ready (spells : Spells written text mantissa tail) :
    (Reading.start written.negative).Ready written.whole ∧ written.pointed.Ready written.fraction := by
  have ready : (Reading.start written.negative).Ready (written.whole ++ written.fraction) := by
    intro _ first head
    have digit := spells.first
    rwa [Option.mem_def.mp head] at digit
  exact ⟨Reading.ready_of_append ready, Reading.ready_advance_append ready⟩

theorem allDigital (spells : Spells written text mantissa tail) :
    written.whole.all isDigital = true ∧ written.fraction.all isDigital = true := by
  rw [← Bool.and_eq_true, ← List.all_append]
  exact spells.digital

theorem run_whole (spells : Spells written text mantissa tail)
    (fits : written.pointed.coefficient ≤ maxCoefficient) (tail : List Char) :
    (Reading.start written.negative).run (written.whole ++ tail) =
      ((Reading.start written.negative).advance written.whole).run tail :=
  Reading.run_takes spells.allDigital.1 spells.ready.1 (fun _ => rfl) ⟨fits, nofun⟩ tail

theorem mantissaRun_unpointed (spells : Spells written text mantissa tail)
    (fits : written.pointed.coefficient ≤ maxCoefficient) (same : mantissa = written.whole)
    (none : written.fraction = []) : MantissaRun written mantissa := by
  have whole : written.Whole := by
    apply written.takes_pointed_iff.mp
    rw [none]
    exact Reading.takes_nil fits
  refine .whole ((Reading.start written.negative).advance written.whole) whole rfl ?_ ?_ (Nat.zero_le _)
    fun tail => same ▸ spells.run_whole fits tail
  · rw [Written.coefficient, none, List.append_nil]
    rfl
  · rw [Written.places, none]
    rfl

theorem mantissaRun_pointed (spells : Spells written text mantissa tail)
    (fits : written.pointed.coefficient ≤ maxCoefficient)
    (same : mantissa = written.whole ++ '.' :: written.fraction) : MantissaRun written mantissa := by
  have reads (tail : List Char) : (Reading.start written.negative).run (mantissa ++ tail) =
      written.pointed.run (written.fraction ++ tail) := by
    rw [same, List.append_assoc, spells.run_whole fits, List.cons_append, Reading.run_point rfl]
    rfl
  have digital := spells.allDigital.2
  have ready := spells.ready.2
  by_cases takes : written.pointed.Takes written.fraction
  · refine .whole (written.pointed.advance written.fraction) (written.takes_pointed_iff.mp takes) rfl
      (written.coefficient_pointed _) (written.scale_pointed _)
      (Reading.scale_le_of_takes rfl (Nat.zero_le _) takes) fun tail => ?_
    rw [reads, Reading.run_takes digital ready nofun takes]
  · obtain ⟨taken, character, dropped, split, taking, ends⟩ :=
      (Reading.takes_or_ends written.fraction fits).resolve_left takes
    rw [split] at ready
    rw [split, List.all_append, Bool.and_eq_true] at digital
    refine .cut (written.pointed.advance taken) character dropped (mt written.takes_pointed_iff.mpr takes) rfl rfl
      taking.1 (Reading.scale_le_of_takes rfl (Nat.zero_le _) taking) ends ?_ ?_ fun tail => ?_
    · rw [← Reading.advance_append, ← split, written.coefficient_pointed, Written.coefficient]
    · rw [← Reading.advance_append, ← split, written.scale_pointed, Written.places]
    · rw [reads, split, List.append_assoc, List.cons_append,
        Reading.run_takes digital.1 (Reading.ready_of_append ready) nofun taking, Reading.run_of_endsAt rfl ends]

theorem mantissaRun (spells : Spells written text mantissa tail) : MantissaRun written mantissa := by
  by_cases fits : written.pointed.coefficient ≤ maxCoefficient
  · rcases spells.parts with ⟨same, none⟩ | same
    · exact spells.mantissaRun_unpointed fits same none
    · exact spells.mantissaRun_pointed fits same
  · have full := Reading.run_whole_full spells.allDigital.1 spells.ready.1 rfl (fun _ => rfl) (Nat.zero_le _)
      (Nat.not_le.mp fits)
    refine .refused fun tail => ?_
    rcases spells.parts with ⟨same, -⟩ | same
    · exact same ▸ full tail
    · rw [same, List.append_assoc, full]

end Spells

end TypeBridge.Decimal
