import TypeBridge.Binary.Format

/-!
Single and double precision numbers as their bit patterns. Each operation computes the exact result
and rounds it once.
-/
namespace TypeBridge

structure Binary64 where
  bits : UInt64
  deriving DecidableEq

structure Binary32 where
  bits : UInt32
  deriving DecidableEq

namespace Binary64

def ofPattern (pattern : Nat) : Binary64 := ⟨UInt64.ofNat pattern⟩

def datum (value : Binary64) : Binary.Datum := Binary.double.datum value.bits.toNat

def ofRatio (negative : Bool) (numerator denominator : Nat) : Binary64 :=
  ofPattern (Binary.double.signed negative (Binary.double.nearest numerator denominator))

def ofNat (value : Nat) : Binary64 := ofRatio false value 1

def ofInt (value : Int) : Binary64 := ofRatio (decide (value < 0)) value.natAbs 1

def neg (value : Binary64) : Binary64 := ⟨value.bits ^^^ 0x8000000000000000⟩

def isFinite (value : Binary64) : Bool :=
  match value.datum with
  | .finite _ _ => true
  | _ => false

def isZero (value : Binary64) : Bool :=
  match value.datum with
  | .finite _ units => units == 0
  | _ => false

/-- The product with a natural number that is itself first rounded to the format. -/
def timesNat (value : Binary64) (factor : Nat) : Binary64 :=
  match value.datum, (ofNat factor).datum with
  | .finite negative units, .finite _ factorUnits =>
    ofPattern (Binary.double.signed negative
      (Binary.double.nearestUnits (units * factorUnits) (twoTo Binary.double.unitPlaces)))
  | _, _ => value

def dividedByNat (value : Binary64) (divisor : Nat) : Binary64 :=
  match value.datum, (ofNat divisor).datum with
  | .finite negative units, .finite _ divisorUnits =>
    ofPattern (Binary.double.signed negative
      (Binary.double.nearestUnits (units * twoTo Binary.double.unitPlaces) divisorUnits))
  | _, _ => value

end Binary64

namespace Binary32

def ofPattern (pattern : Nat) : Binary32 := ⟨UInt32.ofNat pattern⟩

def datum (value : Binary32) : Binary.Datum := Binary.single.datum value.bits.toNat

def ofInt (value : Int) : Binary32 :=
  ofPattern (Binary.single.signed (decide (value < 0)) (Binary.single.nearest value.natAbs 1))

def widen (value : Binary32) : Binary64 :=
  match value.datum with
  | .finite negative units =>
    Binary64.ofRatio negative units (twoTo Binary.single.unitPlaces)
  | other => Binary64.ofPattern (Binary.double.pattern other)

end Binary32

def Binary64.narrow (value : Binary64) : Binary32 :=
  match value.datum with
  | .finite negative units =>
    Binary32.ofPattern (Binary.single.signed negative
      (Binary.single.nearest units (twoTo Binary.double.unitPlaces)))
  | other => Binary32.ofPattern (Binary.single.pattern other)

end TypeBridge
