import Mathlib.Algebra.Order.Field.Power
import Mathlib.Tactic.Ring
import TypeBridge.Proofs.Decimal.Rounding
import TypeBridge.Proofs.Decimal.Runs

/-!
What is read of a number as text. The number is read as it is when there is a place for each of its digits
and there is a decimal for it. Otherwise the last digit that has its place is rounded, and of a text that is
cut off the exponent is lost as well; no rounding mode is asked.
-/
namespace TypeBridge.Decimal

open TypeBridge.Text

namespace Reading

variable {final : Reading} {character : Char} {dropped : List Char} {value : Decimal} {gain : Nat}

theorem toRat_of_finish (h : final.finish = .ok value) :
    value.toRat = decimalNumber final.negative final.coefficient final.scale ∧
      value.scale = final.scale := by
  unfold finish at h
  split at h
  next =>
    split at h
    next made found =>
      cases h
      exact ⟨toRat_of_make? found, (make?_eq_some found).2.1⟩
    next => cases h
  next => cases h

/-- What the last place gains when a digit is dropped: nothing below five, one from five up, and five where
one more is past the maximum, which ends with a five. -/
inductive Gains (final : Reading) (character : Char) : Nat → Prop where
  | none (low : isDigit character = true → digitValue character < 5) : Gains final character 0
  | one (digit : isDigit character = true) (high : 5 ≤ digitValue character) : Gains final character 1
  | carried (digit : isDigit character = true) (high : 5 ≤ digitValue character)
      (most : final.coefficient = maxCoefficient) : Gains final character 5

theorem decimalNumber_carried {negative : Bool} {scale : Nat} (some : scale ≠ 0) :
    decimalNumber negative ((maxCoefficient + 5) / 10) (scale - 1) =
      decimalNumber negative (maxCoefficient + 5) scale := by
  obtain ⟨less, rfl⟩ := Nat.exists_eq_succ_of_ne_zero some
  have tenth : (maxCoefficient + 5) / 10 * 10 = maxCoefficient + 5 := by decide
  rw [decimalNumber_eq_iff, Nat.succ_sub_one, Nat.succ_eq_add_one, tenTo_succ, ← Nat.mul_assoc,
    Nat.mul_right_comm, tenth]

theorem toRat_of_roundOff (known : final.coefficient ≤ maxCoefficient)
    (h : final.roundOff character = .ok value) :
    ∃ gain, final.Gains character gain ∧
      value.toRat = decimalNumber final.negative (final.coefficient + gain) final.scale ∧
      value.scale ≤ final.scale := by
  unfold roundOff at h
  split at h
  next => cases h
  next =>
    split at h
    next high =>
      simp only [Bool.and_eq_true, decide_eq_true_eq] at high
      split at h
      next =>
        obtain ⟨same, scale⟩ := toRat_of_finish h
        exact ⟨1, .one high.1 high.2, same, scale.le⟩
      next past =>
        have most : final.coefficient = maxCoefficient := by omega
        split at h
        next => cases h
        next some =>
          obtain ⟨same, scale⟩ := toRat_of_finish h
          dsimp only at same scale
          rw [most, decimalNumber_carried some] at same
          exact ⟨5, .carried high.1 high.2 most, most.symm ▸ same, scale.trans_le (Nat.sub_le _ _)⟩
    next low =>
      obtain ⟨same, scale⟩ := toRat_of_finish h
      exact ⟨0, .none fun digit => by simpa [digit] using low, same, scale.le⟩

theorem digitsValue_dropped (digit : isDigit character = true) (dropped : List Char) :
    digitsValue ((character :: dropped).filter isDigit) =
        digitValue character * tenTo (dropped.filter isDigit).length +
          digitsValue (dropped.filter isDigit) ∧
      ((character :: dropped).filter isDigit).length = (dropped.filter isDigit).length + 1 := by
  rw [List.filter_cons_of_pos digit, ← digitsValue_singleton]
  exact ⟨digitsValue_append [character] _, List.length_cons⟩

theorem digitsValue_dropped_lt (dropped : List Char) :
    digitsValue (dropped.filter isDigit) < tenTo (dropped.filter isDigit).length :=
  digitsValue_lt fun _ member => (List.mem_filter.mp member).2

/-- Where the coefficient has no room for a digit, no decimal has one place more. -/
theorem not_same_of_wide {digits places count lost : Nat} (fits : digits ≤ maxCoefficient)
    (past : maxCoefficient < 10 * final.coefficient + digitValue character) (longer : final.scale < places) :
    digits * tenTo (final.scale + (count + 1)) ≠
      (final.coefficient * tenTo (count + 1) + (digitValue character * tenTo count + lost)) * tenTo places := by
  have wide : digits * tenTo (final.scale + (count + 1)) <
      (final.coefficient * tenTo (count + 1) + (digitValue character * tenTo count + lost)) * tenTo places :=
    calc
      _ < (10 * final.coefficient + digitValue character) * tenTo (final.scale + (count + 1)) :=
        Nat.mul_lt_mul_of_pos_right (Nat.lt_of_le_of_lt fits past) (tenTo_pos _)
      _ = (final.coefficient * tenTo (count + 1) + digitValue character * tenTo count) *
          tenTo (final.scale + 1) := by
        rw [tenTo_succ, ← Nat.add_assoc, Nat.add_right_comm, tenTo_add]
        ring
      _ ≤ _ := Nat.mul_le_mul (by omega) (tenTo_le longer)
  exact wide.ne

theorem dropped_zero {negative : Bool} (after : final.point = true) (ends : final.EndsAt character)
    (room : Representable (decimalNumber negative (final.advance (character :: dropped)).coefficient
      (final.advance (character :: dropped)).scale)) :
    digitsValue ((character :: dropped).filter isDigit) = 0 := by
  obtain ⟨digits, places, fits, short, same⟩ := coefficient_of_representable room
  rw [coefficient_advance, scale_advance after] at same
  by_cases shorter : places ≤ final.scale
  · -- The number has no digits after those that were taken.
    have whole : tenTo (final.scale + ((character :: dropped).filter isDigit).length) =
        tenTo (final.scale - places) * tenTo ((character :: dropped).filter isDigit).length * tenTo places := by
      rw [← tenTo_add, ← tenTo_add]
      congr 1
      omega
    rw [whole, ← Nat.mul_assoc] at same
    have multiple := Nat.eq_of_mul_eq_mul_right (tenTo_pos places) same
    rw [← Nat.mul_assoc] at multiple
    apply Nat.eq_zero_of_dvd_of_lt _ (digitsValue_dropped_lt _)
    exact (Nat.dvd_add_right (Nat.dvd_mul_left _ _)).mp (multiple ▸ Nat.dvd_mul_left _ _)
  · -- The number would have a digit more, which the coefficient has no room for.
    obtain ⟨digit, past⟩ := ends.resolve_left (by omega)
    obtain ⟨split, length⟩ := digitsValue_dropped digit dropped
    rw [length, split] at same
    exact absurd same (not_same_of_wide fits past (Nat.lt_of_not_le shorter))

theorem Gains.eq_zero (gains : final.Gains character gain)
    (zero : digitsValue ((character :: dropped).filter isDigit) = 0) : gain = 0 := by
  have low (digit : isDigit character = true) : digitValue character = 0 := by
    rw [(digitsValue_dropped digit dropped).1] at zero
    exact (Nat.mul_eq_zero.mp (Nat.eq_zero_of_add_eq_zero_right zero)).resolve_right (tenTo_pos _).ne'
  cases gains with
  | none => rfl
  | one digit high | carried digit high =>
    have := low digit
    omega

def rest (character : Char) (dropped : List Char) : ℚ :=
  digitsValue ((character :: dropped).filter isDigit) / tenTo ((character :: dropped).filter isDigit).length

theorem rest_nonneg (character : Char) (dropped : List Char) : 0 ≤ rest character dropped :=
  div_nonneg (Nat.cast_nonneg _) (Nat.cast_nonneg _)

theorem rest_lt_one (character : Char) (dropped : List Char) : rest character dropped < 1 := by
  rw [rest, div_lt_one (cast_tenTo_pos _), Nat.cast_lt]
  exact digitsValue_dropped_lt _

theorem half_le_rest (digit : isDigit character = true) (high : 5 ≤ digitValue character)
    (dropped : List Char) : 1 / 2 ≤ rest character dropped := by
  obtain ⟨split, length⟩ := digitsValue_dropped digit dropped
  have most : tenTo ((dropped.filter isDigit).length + 1) ≤
      digitsValue ((character :: dropped).filter isDigit) * 2 := by
    have five := Nat.mul_le_mul_right (tenTo (dropped.filter isDigit).length) high
    rw [split, tenTo_succ]
    omega
  rw [rest, length, div_le_div_iff₀ two_pos (cast_tenTo_pos _), one_mul]
  exact_mod_cast most

theorem decimalNumber_advance (after : final.point = true) (negative : Bool) :
    decimalNumber negative (final.advance (character :: dropped)).coefficient
        (final.advance (character :: dropped)).scale =
      (if negative then -1 else 1) * ((final.coefficient + rest character dropped) / tenTo final.scale) := by
  rw [coefficient_advance, scale_advance after, decimalNumber, rest, tenTo_add, Nat.cast_add, Nat.cast_mul,
    Nat.cast_mul, add_div' _ _ _ (cast_tenTo_ne_zero _), div_div, mul_comm (tenTo final.scale : ℚ)]

/-- Rounding to a digit keeps the size of a number: it is not the number with the point elsewhere. -/
theorem shift_of_gains {exponent : ℤ} (gains : final.Gains character gain)
    (same : (final.coefficient + gain : ℚ) =
      (final.coefficient + rest character dropped) * 10 ^ exponent) :
    (final.coefficient + rest character dropped) * 10 ^ exponent =
      final.coefficient + rest character dropped := by
  have nonneg := rest_nonneg character dropped
  have small := rest_lt_one character dropped
  have digits : (0 : ℚ) ≤ final.coefficient := Nat.cast_nonneg _
  have whole : 0 ≤ final.coefficient + rest character dropped := add_nonneg digits nonneg
  rcases lt_trichotomy exponent 0 with lower | rfl | upper
  · -- Of a number ten times less no digit is left that could stay.
    have weight : (10 : ℚ) ^ exponent ≤ 10 ^ (-1 : ℤ) := zpow_le_zpow_right₀ (by norm_num) (by omega)
    have less := mul_le_mul_of_nonneg_left weight whole
    rw [← same, zpow_neg_one] at less
    have few : (10 * (final.coefficient + gain : Nat) : ℚ) < (final.coefficient + 1 : Nat) := by
      push_cast
      linarith
    have none : 10 * (final.coefficient + gain) < final.coefficient + 1 := by exact_mod_cast few
    obtain ⟨kept, gained⟩ : final.coefficient = 0 ∧ gain = 0 := by omega
    rw [kept, gained, Nat.cast_zero, add_zero] at same
    rw [kept, Nat.cast_zero, ← same]
    exact ((mul_eq_zero.mp same.symm).resolve_right (zpow_ne_zero _ (by norm_num))).symm
  · rw [zpow_zero, mul_one]
  · -- A number ten times as great is more than what rounding gains.
    have weight : (10 : ℚ) ^ (1 : ℤ) ≤ 10 ^ exponent := zpow_le_zpow_right₀ (by norm_num) (by omega)
    have more := mul_le_mul_of_nonneg_left weight whole
    rw [← same, zpow_one] at more
    cases gains with
    | none =>
      have zero : final.coefficient + rest character dropped = 0 := by
        rw [Nat.cast_zero] at more
        linarith
      rw [zero, zero_mul]
    | one digit high =>
      have half := half_le_rest digit high dropped
      rw [Nat.cast_one] at more
      linarith
    | carried _ _ most =>
      have one : (1 : ℚ) ≤ final.coefficient := by
        rw [most]
        exact_mod_cast (show 1 ≤ maxCoefficient by decide)
      push_cast at more
      linarith

/-- A number that is cut off is read as it is when there is a decimal for it and the exponent, which is
lost, changes nothing. -/
theorem exact_of_roundOff_iff {mantissa : ℚ} {exponent : ℤ} (after : final.point = true)
    (known : final.coefficient ≤ maxCoefficient) (few : final.scale ≤ maxScale)
    (ends : final.EndsAt character) (h : final.roundOff character = .ok value)
    (all : mantissa = decimalNumber final.negative (final.advance (character :: dropped)).coefficient
      (final.advance (character :: dropped)).scale) :
    value.toRat = mantissa * 10 ^ exponent ↔
      Representable (mantissa * 10 ^ exponent) ∧ mantissa * 10 ^ exponent = mantissa := by
  obtain ⟨gain, gains, same, scale⟩ := toRat_of_roundOff known h
  constructor
  · intro exact
    refine ⟨⟨value, scale.trans few, exact⟩, ?_⟩
    rw [decimalNumber_advance after] at all
    rw [same, all, decimalNumber, mul_assoc, mul_right_inj' (sign_ne_zero _), div_mul_eq_mul_div,
      div_left_inj' (cast_tenTo_ne_zero _), Nat.cast_add] at exact
    rw [all, mul_assoc, div_mul_eq_mul_div, shift_of_gains gains exact]
  · rintro ⟨room, unshifted⟩
    rw [unshifted, all] at room
    have zero := dropped_zero after ends room
    rw [unshifted, all, same, gains.eq_zero zero, decimalNumber_eq_iff, coefficient_advance, zero,
      scale_advance after, tenTo_add, Nat.add_zero, Nat.add_zero, Nat.mul_assoc, Nat.mul_comm (tenTo final.scale)]

end Reading

section Exponents

variable {base value : Decimal} {exponent : Nat}

theorem toRat_of_raise (few : base.scale ≤ maxScale) (h : base.raise exponent = .ok value) :
    value.toRat = base.toRat * tenTo exponent ∧ value.scale ≤ maxScale := by
  unfold raise at h
  rw [toRat_eq_decimalNumber base]
  split at h
  next within =>
    split at h
    next raised found =>
      cases h
      have places : base.scale = base.scale - exponent + exponent := (Nat.sub_add_cancel within).symm
      refine ⟨?_, by rw [(make?_eq_some found).2.1]; omega⟩
      rw [toRat_of_make? found]
      conv_rhs => rw [places, decimalNumber_scale_add, div_mul_cancel₀ _ (cast_tenTo_ne_zero exponent)]
    next => cases h
  next past =>
    split at h
    next => cases h
    next =>
      split at h
      next raised found =>
        cases h
        have unscaled : decimalNumber base.negative base.coefficient (0 + base.scale) =
            decimalNumber base.negative base.coefficient 0 / tenTo base.scale := decimalNumber_scale_add _
        rw [Nat.zero_add, eq_div_iff (cast_tenTo_ne_zero _)] at unscaled
        refine ⟨?_, by rw [(make?_eq_some found).2.1]; exact Nat.zero_le _⟩
        rw [toRat_of_make? found, decimalNumber_mul, ← unscaled, mul_assoc, ← Nat.cast_mul, ← tenTo_add,
          Nat.add_sub_cancel' (Nat.le_of_not_le past)]
      next => cases h

theorem toRat_of_shortenHalfUp {scale : Nat} (fewer : scale < base.scale)
    (zeros : tenTo (base.scale - scale) ∣ base.coefficient) (h : base.shortenHalfUp scale = some value) :
    value.toRat = base.toRat := by
  obtain ⟨quotient, exact⟩ := zeros
  have ten : tenTo (base.scale - scale) = tenTo (base.scale - scale - 1) * 10 := by
    rw [← tenTo_succ, Nat.sub_add_cancel (by omega)]
  have kept : base.coefficient / tenTo (base.scale - scale) = quotient := by
    rw [exact, Nat.mul_div_cancel_left _ (tenTo_pos _)]
  have last : base.coefficient / tenTo (base.scale - scale - 1) % 10 = 0 := by
    rw [exact, ten, Nat.mul_assoc, Nat.mul_div_cancel_left _ (tenTo_pos _), Nat.mul_mod_right]
  have places : tenTo base.scale = tenTo (base.scale - scale) * tenTo scale := by
    rw [← tenTo_add, Nat.sub_add_cancel fewer.le]
  unfold shortenHalfUp at h
  dsimp only at h
  rw [kept, last, if_neg (by decide), Nat.add_zero] at h
  rw [toRat_of_make? h, toRat_eq_decimalNumber base, decimalNumber_eq_iff, exact, places,
    Nat.mul_comm (tenTo _) quotient, Nat.mul_assoc]

/-- A number that there is a decimal for after division by ten to the power of `exponent` has nothing but
zeros in the places that the division would move past the 28th. -/
theorem zeros_of_representable (fewer : maxScale - exponent < base.scale) (within : exponent ≤ maxScale)
    (room : Representable (base.toRat / tenTo exponent)) :
    tenTo (base.scale - (maxScale - exponent)) ∣ base.coefficient := by
  rw [toRat_eq_decimalNumber base, ← decimalNumber_scale_add] at room
  obtain ⟨digits, places, -, short, same⟩ := coefficient_of_representable room
  have whole : tenTo (base.scale + exponent) =
      tenTo (base.scale - (maxScale - exponent)) * tenTo (maxScale - places) * tenTo places := by
    rw [← tenTo_add, ← tenTo_add]
    congr 1
    omega
  rw [whole, ← Nat.mul_assoc] at same
  rw [← Nat.eq_of_mul_eq_mul_right (tenTo_pos places) same, Nat.mul_left_comm]
  exact Nat.dvd_mul_right _ _

/-- A number with a negative exponent is read as it is when there is a decimal for it. -/
theorem toRat_of_lower (h : base.lower exponent = .ok value) :
    value.scale ≤ maxScale ∧
      (Representable (base.toRat / tenTo exponent) → value.toRat = base.toRat / tenTo exponent) := by
  unfold lower at h
  split at h
  next => cases h
  next within =>
    dsimp only at h
    split at h
    next lowered found =>
      cases h
      obtain ⟨short, shortened, made⟩ := Option.bind_eq_some_iff.mp found
      have same : value.toRat = short.toRat / tenTo exponent := by
        rw [toRat_of_make? made, decimalNumber_scale_add, ← toRat_eq_decimalNumber]
      rw [(make?_eq_some made).2.1, same]
      split at shortened
      next few =>
        cases shortened
        exact ⟨by omega, fun _ => rfl⟩
      next many =>
        have places : short.scale = maxScale - exponent := (make?_eq_some shortened).2.1
        have fewer : maxScale - exponent < base.scale := Nat.lt_of_not_le many
        refine ⟨by omega, fun room => ?_⟩
        rw [toRat_of_shortenHalfUp fewer (zeros_of_representable fewer (by omega) room) shortened]
    next => cases h

end Exponents

variable {written : Written} {text mantissa tail : List Char} {value : Decimal}

theorem readScientific_ok {digits : List Char} {exponent : ℤ}
    (after : (text.dropWhile (!isExponentMark ·)).drop 1 = digits)
    (read : Written.exponent? digits = some exponent) (h : readScientific text = .ok value) :
    ∃ base, readPlain (text.takeWhile (!isExponentMark ·)) = .ok base ∧
      ∃ count : Nat, exponent = count ∧ base.raise count = .ok value ∨
        exponent = -count ∧ base.lower count = .ok value := by
  unfold readScientific at h
  obtain ⟨base, plain, h⟩ := bind_eq_ok.mp h
  refine ⟨base, plain, ?_⟩
  rw [after] at h
  unfold Written.exponent? at read
  split at h
  next digits =>
    obtain ⟨count, number, rfl⟩ := Option.map_eq_some_iff.mp read
    split at h
    next found => exact ⟨count, .inr ⟨rfl, eq_of_readNatural? number found ▸ h⟩⟩
    next => cases h
  next notMinus =>
    split at h
    next found =>
      split at read
      next => exact absurd rfl (notMinus _)
      next digits =>
        obtain ⟨count, number, rfl⟩ := Option.map_eq_some_iff.mp read
        exact ⟨count, .inl ⟨rfl, eq_of_readNatural?_plus number found ▸ h⟩⟩
      next =>
        obtain ⟨count, number, rfl⟩ := Option.map_eq_some_iff.mp read
        exact ⟨count, .inl ⟨rfl, eq_of_readNatural? number found ▸ h⟩⟩
    next => cases h

theorem read_cases (h : Decimal.read text = .ok value) :
    readPlain text = .ok value ∨
      (∃ fault, readPlain text = .error fault) ∧ readScientific text = .ok value := by
  unfold Decimal.read at h
  split at h
  next found => exact .inl (h ▸ found)
  next fault found =>
    split at h
    next => exact .inr ⟨⟨fault, found⟩, h⟩
    next => cases h

theorem readPlain_of_read {outcome : Except ReadFault Decimal} (plain : readPlain text = outcome)
    (base : readPlain (text.takeWhile (!isExponentMark ·)) = outcome) (h : Decimal.read text = .ok value) :
    outcome = .ok value := by
  rcases read_cases h with first | ⟨⟨fault, first⟩, second⟩
  · exact plain.symm.trans first
  · obtain ⟨number, other, -⟩ := bind_eq_ok.mp second
    rw [base, ← plain, first] at other
    cases other

theorem toRat_of_read {final : Reading} (spells : Spells written text mantissa tail)
    (known : decimalNumber final.negative final.coefficient final.scale = written.mantissa)
    (few : final.scale ≤ maxScale)
    (run : ∀ tail, (Reading.start written.negative).run (mantissa ++ tail) = final.run tail)
    (h : Decimal.read text = .ok value) :
    value.scale ≤ maxScale ∧ (Representable written.number → value.toRat = written.number) := by
  have plain := spells.readPlain_eq
  have base := spells.readPlain_cut
  rw [run] at plain base
  rcases spells.ending with ⟨rfl, none⟩ | ⟨mark, digits, rfl, marked, exponent⟩
  · obtain ⟨same, scale⟩ := Reading.toRat_of_finish (readPlain_of_read plain base h)
    refine ⟨scale.trans_le few, fun _ => ?_⟩
    rw [same, known, Written.number, none, zpow_zero, mul_one]
  · -- Plain reading stops at the mark, so what stands before it is read once more, by itself.
    have second : readScientific text = .ok value := by
      rcases read_cases h with first | ⟨-, second⟩
      · exact absurd (plain.symm.trans first) (Reading.run_mark marked _ value)
      · exact second
    obtain ⟨number, first, count, shifted⟩ :=
      readScientific_ok (congrArg (·.drop 1) spells.cut.2) exponent second
    obtain ⟨same, scale⟩ := Reading.toRat_of_finish (base.symm.trans first)
    rw [known] at same
    rw [Written.number, ← same]
    rcases shifted with ⟨up, raised⟩ | ⟨down, lowered⟩
    · obtain ⟨exact, within⟩ := toRat_of_raise (scale.trans_le few) raised
      refine ⟨within, fun _ => ?_⟩
      rw [exact, up, zpow_natCast, cast_tenTo]
    · obtain ⟨within, exact⟩ := toRat_of_lower lowered
      refine ⟨within, ?_⟩
      rw [down, zpow_neg, zpow_natCast, ← div_eq_mul_inv, ← cast_tenTo]
      exact exact

/-- What is read of a text is its number when there is a decimal for the number, and either a place for each
digit of the text or an exponent that changes nothing. -/
theorem read_exact_iff (spelled : Written.of? text = some written) (h : Decimal.read text = .ok value) :
    value.toRat = written.number ↔
      Representable written.number ∧ (written.Whole ∨ written.number = written.mantissa) := by
  obtain ⟨mantissa, tail, spells⟩ := spells_of? spelled
  cases spells.mantissaRun with
  | whole final whole sign digits places few run =>
    have known : decimalNumber final.negative final.coefficient final.scale = written.mantissa := by
      rw [sign, digits, places, Written.mantissa]
    obtain ⟨within, exact⟩ := toRat_of_read spells known few run h
    exact ⟨fun same => ⟨⟨value, within, same⟩, .inl whole⟩, fun ⟨room, _⟩ => exact room⟩
  | cut final character dropped more sign after known few ends digits places run =>
    have all : written.mantissa = decimalNumber final.negative
        (final.advance (character :: dropped)).coefficient
        (final.advance (character :: dropped)).scale := by
      rw [digits, places, sign, Written.mantissa]
    -- Reading ends at that character whatever follows, so with the exponent nothing else would be read.
    have rounded := readPlain_of_read (spells.readPlain_eq.trans (run _)) (spells.readPlain_cut.trans (run _)) h
    rw [Written.number, Reading.exact_of_roundOff_iff after known few ends rounded all, or_iff_right more]
  | refused run =>
    cases readPlain_of_read (spells.readPlain_eq.trans (run _)) (spells.readPlain_cut.trans (run _)) h

section Column

variable {precision scale : Nat} {rounding : Option RoundingMode} {text : String} {read : Decimal}

/-- Without rounding mode, fitting changes nothing of what was read of a text. -/
theorem read_of_decode (strict : rounding = none ∨ rounding = some .unnecessary)
    (decoding : (ReadStrategy.decimal precision scale rounding).decode (.text text) = .ok (.decimal read)) :
    ∃ parsed, Decimal.read (trim text.toList) = .ok parsed ∧ read.toRat = parsed.toRat := by
  cases (ReadStrategy.decode_eq_ok rfl).mp decoding with
  | @decimal _ _ _ _ parsed _ origin fits =>
    refine ⟨parsed, ?_, toRat_of_fit_strict strict (fitDecimal_eq_ok.mp fits)⟩
    cases origin with
    | text found =>
      unfold readDecimal at found
      split at found
      next plain =>
        cases found
        exact plain
      next => cases found

/-- A text that is read from a column without rounding mode is read as the number of the text exactly when
there is a decimal for the number, and either a place for each digit of the text or an exponent that changes
nothing. -/
theorem decoded_text_exact_iff (strict : rounding = none ∨ rounding = some .unnecessary)
    (decoding : (ReadStrategy.decimal precision scale rounding).decode (.text text) = .ok (.decimal read)) :
    numberOf? (trim text.toList) = some read.toRat ↔
      ∃ written, Written.of? (trim text.toList) = some written ∧ Representable written.number ∧
        (written.Whole ∨ written.number = written.mantissa) := by
  obtain ⟨parsed, plain, same⟩ := read_of_decode strict decoding
  rw [same, numberOf?, Option.map_eq_some_iff]
  refine exists_congr fun written => and_congr_right fun spelled => ?_
  rw [eq_comm, read_exact_iff spelled plain]

end Column

/-- A number with all that can stand beside its digits. -/
theorem decoded_text_exact_iff_exponent :
    let text := " -1_234.5e1\n"
    let read : Decimal := ⟨true, 1234500, 2, by decide, nofun⟩
    ((none : Option RoundingMode) = none ∨ none = some RoundingMode.unnecessary) ∧
      (ReadStrategy.decimal 10 2 none).decode (.text text) = .ok (.decimal read) ∧
        numberOf? (trim text.toList) = some read.toRat := by
  intro text read
  let written : Written := ⟨true, "1_234".toList, ['5'], 1⟩
  have decoding : (ReadStrategy.decimal 10 2 none).decode (.text text) = .ok (.decimal read) := by decide
  have spelled : Written.of? (trim text.toList) = some written := by decide
  have digits : written.coefficient = 12345 ∧ written.places = 1 := by decide
  have number : read.toRat = written.number := by
    rw [Written.number, Written.mantissa, digits.1, digits.2]
    norm_num [toRat, signedCoefficient, decimalNumber, tenTo, read, written]
  refine ⟨.inl rfl, decoding, (decoded_text_exact_iff (.inl rfl) decoding).mpr ⟨written, spelled, ?_, .inl ?_⟩⟩
  · exact ⟨read, by decide, number⟩
  · exact ⟨by decide, by decide⟩

def longText : String := "0.12345678901234567890123456789"

def longText.rounded : Decimal := ⟨false, 1234567890123456789012345679, 28, by decide, nofun⟩

/-- A text with a digit too many is read as another number, where no rounding is allowed. -/
theorem longText_rounded :
    (∀ rounding, rounding = none ∨ rounding = some .unnecessary →
      (ReadStrategy.decimal 38 28 rounding).decode (.text longText) = .ok (.decimal longText.rounded)) ∧
    numberOf? (trim longText.toList) = some (12345678901234567890123456789 / 10 ^ 29) ∧
      longText.rounded.toRat ≠ 12345678901234567890123456789 / 10 ^ 29 := by
  let written : Written := ⟨false, ['0'], "12345678901234567890123456789".toList, 0⟩
  have spelled : Written.of? (trim longText.toList) = some written := by decide +kernel
  have digits : written.coefficient = 12345678901234567890123456789 ∧ written.places = 29 := by
    decide +kernel
  refine ⟨?_, ?_, ?_⟩
  · rintro rounding (rfl | rfl) <;> decide +kernel
  · rw [numberOf?, spelled, Option.map_some, Written.number, Written.mantissa, digits.1, digits.2]
    norm_num [decimalNumber, tenTo, written]
  · norm_num [toRat, signedCoefficient, tenTo, longText.rounded]

end TypeBridge.Decimal
