import Mathlib.Tactic.Ring
import TypeBridge.Binary.Float

/-!
What rounding to a binary format yields: a significand of the precision of the format times a power of
two. So numbers with few bits are exact, and so is the product of two of them up to the one rounding of
the exact product.
-/
namespace TypeBridge.Binary

theorem nearestEven_mul (numerator denominator : Nat) {factor : Nat} (positive : 0 < factor) :
    nearestEven (numerator * factor) (denominator * factor) = nearestEven numerator denominator := by
  have below : 2 * (numerator % denominator * factor) < denominator * factor ↔
      2 * (numerator % denominator) < denominator := by
    rw [← Nat.mul_assoc]
    exact Nat.mul_lt_mul_right positive
  have tie : 2 * (numerator % denominator * factor) = denominator * factor ↔
      2 * (numerator % denominator) = denominator := by
    rw [← Nat.mul_assoc]
    exact Nat.mul_right_cancel_iff positive
  simp only [nearestEven, Nat.mul_div_mul_right _ _ positive, Nat.mul_mod_mul_right, below, tie]

theorem nearestEven_exact (whole : Nat) {denominator : Nat} (positive : 0 < denominator) :
    nearestEven (whole * denominator) denominator = whole := by
  simp only [nearestEven, Nat.mul_mod_left, Nat.mul_div_cancel _ positive, Nat.mul_zero, positive, if_true]

theorem nearestEven_near (numerator denominator : Nat) :
    numerator / denominator ≤ nearestEven numerator denominator ∧
      nearestEven numerator denominator ≤ numerator / denominator + 1 := by
  simp only [nearestEven]
  split
  · omega
  · split <;> omega

theorem log2_lt {number places : Nat} (positive : 0 < places) (h : number < twoTo places) :
    number.log2 < places := by
  by_cases zero : number = 0
  · rwa [zero, Nat.log2_zero]
  · exact (Nat.log2_lt zero).mpr h

namespace Format

variable (format : Format)

def groupingAt (numerator denominator : Nat) : Nat :=
  (numerator / denominator).log2 + 1 - format.precision

/-- The magnitude nearest to a quotient, in units, as if the exponents had no end. -/
def rounded (numerator denominator : Nat) : Nat :=
  nearestEven numerator (denominator * twoTo (format.groupingAt numerator denominator)) *
    twoTo (format.groupingAt numerator denominator)

variable {format}

theorem binade_double (present : 0 < format.precision) :
    twoTo format.precision = 2 * format.binade := by
  have last : format.precision = format.precision - 1 + 1 := by omega
  rw [binade, Nat.mul_comm, ← twoTo_succ, ← last]

/-- The significand has at most the bits of the precision, one more unit apart, and past the first
binade it has them all. -/
theorem significand_bounds (present : 0 < format.precision) (numerator denominator : Nat) :
    nearestEven numerator (denominator * twoTo (format.groupingAt numerator denominator)) ≤
        2 * format.binade ∧
      (0 < format.groupingAt numerator denominator → format.binade ≤
        nearestEven numerator (denominator * twoTo (format.groupingAt numerator denominator))) := by
  have near := nearestEven_near numerator
    (denominator * twoTo (format.groupingAt numerator denominator))
  rw [← Nat.div_div_eq_div_mul] at near
  generalize nearestEven numerator _ = significand at near ⊢
  unfold groupingAt at near ⊢
  generalize numerator / denominator = quotient at near ⊢
  have room := twoTo_pos (quotient.log2 + 1 - format.precision)
  constructor
  · have high : quotient < twoTo (quotient.log2 + 1) := Nat.lt_log2_self
    have reach : twoTo (quotient.log2 + 1) ≤
        twoTo format.precision * twoTo (quotient.log2 + 1 - format.precision) := by
      rw [← twoTo_add]
      exact Nat.pow_le_pow_right (by decide) (by omega)
    have less := (Nat.div_lt_iff_lt_mul room).mpr (Nat.lt_of_lt_of_le high reach)
    rw [binade_double present] at less
    omega
  · intro grouped
    -- Past the first binade the quotient has a leading bit, which no significand loses.
    have some : quotient ≠ 0 := by
      intro zero
      rw [zero, Nat.log2_zero] at grouped
      omega
    have low : twoTo quotient.log2 ≤ quotient := Nat.log2_self_le some
    have parts : quotient.log2 = format.precision - 1 + (quotient.log2 + 1 - format.precision) := by omega
    have least : format.binade ≤ quotient / twoTo (quotient.log2 + 1 - format.precision) := by
      rw [Nat.le_div_iff_mul_le room, binade, ← twoTo_add, ← parts]
      exact low
    omega

/-- The bits of a significand in its group give back their product, also where the significand carries
into the exponent. -/
theorem units_grouped {grouping significand : Nat} (high : significand ≤ 2 * format.binade)
    (low : 0 < grouping → format.binade ≤ significand) :
    format.units (grouping * format.binade + significand) = significand * twoTo grouping := by
  have positive : 0 < format.binade := twoTo_pos _
  unfold units Format.grouping
  by_cases small : significand < format.binade
  · have first : grouping = 0 := by
      by_contra later
      exact absurd (low (Nat.pos_of_ne_zero later)) (Nat.not_le.mpr small)
    rw [first, Nat.zero_mul, Nat.zero_add, if_pos small, twoTo_zero, Nat.mul_one]
  · rw [if_neg (by have := Nat.zero_le (grouping * format.binade); omega)]
    by_cases carried : significand = 2 * format.binade
    · have whole : grouping * format.binade + significand = (grouping + 2) * format.binade := by
        rw [carried, Nat.add_mul]
      rw [whole, Nat.mul_mod_left, Nat.mul_div_cancel _ positive, carried]
      change format.binade * twoTo (grouping + 1) = 2 * format.binade * twoTo grouping
      rw [twoTo_succ]
      ring
    · have kept : significand = significand - format.binade + format.binade := by omega
      have whole : grouping * format.binade + significand =
          significand - format.binade + format.binade * (grouping + 1) := by
        rw [Nat.mul_add, Nat.mul_one, Nat.mul_comm]
        omega
      have within : significand - format.binade < format.binade := by omega
      rw [whole, Nat.add_mul_mod_self_left, Nat.mod_eq_of_lt within, Nat.add_mul_div_left _ _ positive,
        Nat.div_eq_of_lt within, Nat.zero_add, Nat.add_sub_cancel, Nat.add_comm format.binade, ← kept]

variable {numerator denominator : Nat}

theorem units_nearestUnits (present : 0 < format.precision)
    (finite : format.nearestUnits numerator denominator < format.infinityBits) :
    format.units (format.nearestUnits numerator denominator) = format.rounded numerator denominator := by
  obtain ⟨high, low⟩ := significand_bounds present numerator denominator
  have least := min_eq_left_of_lt ((min_lt_iff.mp finite).resolve_right (Nat.lt_irrefl _))
  exact (congrArg format.units least).trans (units_grouped high low)

theorem nearestUnits_lt_infinityBits (present : 0 < format.precision)
    (within : format.groupingAt numerator denominator + 2 < twoTo format.exponentBits - 1) :
    format.nearestUnits numerator denominator < format.infinityBits := by
  have high := (significand_bounds present numerator denominator).1
  have room : 0 < format.binade := twoTo_pos _
  apply Nat.lt_of_le_of_lt (Nat.min_le_left ..)
  calc
    _ ≤ format.groupingAt numerator denominator * format.binade + 2 * format.binade :=
      Nat.add_le_add_left high _
    _ = format.binade * (format.groupingAt numerator denominator + 2) := by ring
    _ < format.infinityBits := Nat.mul_lt_mul_of_pos_left within room

theorem nearestUnits_mul (format : Format) (numerator denominator : Nat) {factor : Nat}
    (positive : 0 < factor) :
    format.nearestUnits (numerator * factor) (denominator * factor) =
      format.nearestUnits numerator denominator := by
  simp only [nearestUnits, Nat.mul_div_mul_right _ _ positive, Nat.mul_right_comm denominator factor,
    nearestEven_mul _ _ positive]

theorem rounded_exact {significand : Nat} (present : 0 < format.precision)
    (fits : significand < twoTo format.precision) (places : Nat) :
    format.rounded (significand * twoTo places) 1 = significand * twoTo places := by
  unfold rounded
  have grouped : format.groupingAt (significand * twoTo places) 1 ≤ places := by
    unfold groupingAt
    rw [Nat.div_one]
    have high : (significand * twoTo places).log2 < format.precision + places := by
      apply log2_lt (Nat.add_pos_left present places)
      rw [twoTo_add]
      exact Nat.mul_lt_mul_of_pos_right fits (twoTo_pos places)
    omega
  generalize format.groupingAt (significand * twoTo places) 1 = grouping at grouped ⊢
  have parts : significand * twoTo places = significand * twoTo (places - grouping) * twoTo grouping := by
    rw [Nat.mul_assoc, ← twoTo_add, Nat.sub_add_cancel grouped]
  rw [Nat.one_mul, parts, nearestEven_exact _ (twoTo_pos grouping)]

/-- A whole number is rounded to a whole number, whatever the unit. -/
theorem rounded_mul_twoTo (present : 0 < format.precision) (number places : Nat) :
    format.rounded (number * twoTo places) 1 = format.rounded number 1 * twoTo places := by
  by_cases fits : number < twoTo format.precision
  · have whole := rounded_exact present fits 0
    rw [twoTo_zero, Nat.mul_one] at whole
    rw [rounded_exact present fits places, whole]
  · have some : number ≠ 0 := by
      intro zero
      exact fits (zero ▸ twoTo_pos _)
    have long : format.precision ≤ number.log2 := (Nat.le_log2 some).mpr (Nat.not_lt.mp fits)
    have moved : (number * twoTo places).log2 = number.log2 + places := by
      have still : number * twoTo places ≠ 0 :=
        Nat.mul_ne_zero some (Nat.pos_iff_ne_zero.mp (twoTo_pos places))
      obtain ⟨low, high⟩ := (Nat.log2_eq_iff some).mp rfl
      apply (Nat.log2_eq_iff still).mpr
      change twoTo (number.log2 + places) ≤ _ ∧ _ < twoTo (number.log2 + places + 1)
      rw [twoTo_add, Nat.add_right_comm, twoTo_add]
      exact ⟨Nat.mul_le_mul_right _ low, Nat.mul_lt_mul_of_pos_right high (twoTo_pos places)⟩
    have grouped : format.groupingAt (number * twoTo places) 1 = format.groupingAt number 1 + places := by
      unfold groupingAt
      rw [Nat.div_one, Nat.div_one, moved]
      omega
    unfold rounded
    rw [grouped, twoTo_add, Nat.one_mul, Nat.one_mul, nearestEven_mul _ _ (twoTo_pos places), Nat.mul_assoc]

end Format

end TypeBridge.Binary

namespace TypeBridge.Binary64

open TypeBridge.Binary

/-- The double is this whole number. -/
def Stands (value : Binary64) (number : Nat) : Prop :=
  value.datum = .finite false (number * twoTo double.unitPlaces)

def nearestWhole (number : Nat) : Nat := double.rounded number 1

theorem stands_unique {value : Binary64} {number other : Nat} (first : value.Stands number)
    (second : value.Stands other) : number = other := by
  have units := (Binary.Datum.finite.inj (first.symm.trans second)).2
  exact Nat.eq_of_mul_eq_mul_right (twoTo_pos _) units

theorem datum_ofPattern {bits : Nat} (finite : bits < double.infinityBits) :
    (ofPattern bits).datum = .finite false (double.units bits) := by
  have weight : double.infinityBits < double.signWeight := by decide
  have word : double.infinityBits < twoTo 64 := by decide
  have kept : (UInt64.ofNat bits).toNat = bits := UInt64.toNat_ofNat_of_lt' (Nat.lt_trans finite word)
  simp only [datum, ofPattern, kept, Format.datum, Nat.mod_eq_of_lt (Nat.lt_trans finite weight),
    if_pos finite, decide_eq_false (Nat.not_le.mpr (Nat.lt_trans finite weight))]

theorem ofNat_eq (number : Nat) :
    ofNat number = ofPattern (double.nearestUnits (number * twoTo double.unitPlaces) 1) := by
  simp only [ofNat, ofRatio, Format.signed, Format.nearest, Bool.false_eq_true, if_false]

theorem stands_ofNat {number : Nat} (word : number < twoTo 64) :
    (ofNat number).Stands (nearestWhole number) := by
  have present : 0 < double.precision := by decide
  have grouped : double.groupingAt (number * twoTo double.unitPlaces) 1 + 2 <
      twoTo double.exponentBits - 1 := by
    have low : (number * twoTo double.unitPlaces).log2 < 64 + double.unitPlaces := by
      apply log2_lt (by decide)
      rw [twoTo_add]
      exact Nat.mul_lt_mul_of_pos_right word (twoTo_pos _)
    have ends : 64 + double.unitPlaces + 1 - double.precision + 2 < twoTo double.exponentBits - 1 := by decide
    unfold Format.groupingAt
    rw [Nat.div_one]
    omega
  have finite := Format.nearestUnits_lt_infinityBits present grouped
  rw [Stands, ofNat_eq, datum_ofPattern finite, Format.units_nearestUnits present finite,
    Format.rounded_mul_twoTo present, nearestWhole]

theorem nearestWhole_self {number : Nat} (fits : number < twoTo double.precision) :
    nearestWhole number = number := by
  have exactly := Format.rounded_exact (by decide) fits 0
  rwa [twoTo_zero, Nat.mul_one] at exactly

theorem timesNat_ofNat {number factor : Nat} (left : number < twoTo double.precision)
    (right : factor < twoTo double.precision) : (ofNat number).timesNat factor = ofNat (number * factor) := by
  have word : twoTo double.precision < twoTo 64 := by decide
  have first := stands_ofNat (Nat.lt_trans left word)
  have second := stands_ofNat (Nat.lt_trans right word)
  rw [nearestWhole_self left] at first
  rw [nearestWhole_self right] at second
  unfold Stands at first second
  have product : number * twoTo double.unitPlaces * (factor * twoTo double.unitPlaces) =
      number * factor * twoTo double.unitPlaces * twoTo double.unitPlaces := by ring
  have once := double.nearestUnits_mul (number * factor * twoTo double.unitPlaces) 1
    (twoTo_pos double.unitPlaces)
  rw [Nat.one_mul] at once
  rw [ofNat_eq (number * factor), ← once, ← product, timesNat, first, second]
  simp only [Format.signed, Bool.false_eq_true, if_false]

end TypeBridge.Binary64
