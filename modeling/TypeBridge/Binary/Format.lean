import TypeBridge.Power

/-!
Binary interchange formats. Every finite magnitude of a format is a whole multiple of its smallest
one, its *unit*, so magnitudes are natural numbers and rounding is exact arithmetic on them.
-/
namespace TypeBridge.Binary

/-- `precision` counts the significand bits with the leading one; the unit is two to the power of
minus `unitPlaces`. -/
structure Format where
  precision : Nat
  exponentBits : Nat
  unitPlaces : Nat

def single : Format := ⟨24, 8, 149⟩

def double : Format := ⟨53, 11, 1074⟩

inductive Datum where
  | nan
  | infinite (negative : Bool)
  | finite (negative : Bool) (units : Nat)
  deriving DecidableEq

namespace Format

def binade (format : Format) : Nat := twoTo (format.precision - 1)

def signWeight (format : Format) : Nat := format.binade * twoTo format.exponentBits

def infinityBits (format : Format) : Nat := format.binade * (twoTo format.exponentBits - 1)

/-- The power of two by which the units are grouped in the binade of a magnitude. -/
def grouping (format : Format) (bits : Nat) : Nat := bits / format.binade - 1

def units (format : Format) (bits : Nat) : Nat :=
  if bits < format.binade then bits
  else (format.binade + bits % format.binade) * twoTo (format.grouping bits)

def datum (format : Format) (pattern : Nat) : Datum :=
  let negative := format.signWeight ≤ pattern
  let bits := pattern % format.signWeight
  if bits < format.infinityBits then .finite negative (format.units bits)
  else if bits = format.infinityBits then .infinite negative
  else .nan

def signed (format : Format) (negative : Bool) (bits : Nat) : Nat :=
  if negative then format.signWeight + bits else bits

end Format

def nearestEven (numerator denominator : Nat) : Nat :=
  let whole := numerator / denominator
  let twice := 2 * (numerator % denominator)
  if twice < denominator then whole
  else if twice = denominator then whole + whole % 2
  else whole + 1

namespace Format

/-- The bits of the magnitude nearest to `numerator / denominator` units, infinity past the largest. A
significand that rounds up to the next power of two carries into the exponent. -/
def nearestUnits (format : Format) (numerator denominator : Nat) : Nat :=
  let grouping := (numerator / denominator).log2 + 1 - format.precision
  let significand := nearestEven numerator (denominator * twoTo grouping)
  min (grouping * format.binade + significand) format.infinityBits

def nearest (format : Format) (numerator denominator : Nat) : Nat :=
  format.nearestUnits (numerator * twoTo format.unitPlaces) denominator

/-- The quiet pattern that stands for every result that is not a number. -/
def nanPattern (format : Format) : Nat := format.infinityBits + format.binade / 2

/-- The pattern of a datum; a magnitude the format lacks is rounded. -/
def pattern (format : Format) : Datum → Nat
  | .nan => format.nanPattern
  | .infinite negative => format.signed negative format.infinityBits
  | .finite negative units => format.signed negative (format.nearestUnits units 1)

end Format

end TypeBridge.Binary
