import TypeBridge.Error

/-!
The fractional digits of a second that a column stores, from its display width. A fixed width means none,
any greater one exceeds it by the point and the digits. Also the expressions by which text is bound.
-/
namespace TypeBridge.Temporal

def timeWidth : Int := 10

def timestampWidth : Int := 19

/-- The most digits that one word of microseconds holds. -/
def maxShortPrecision : Nat := 6

/-- The most digits that a packed word with a zone holds. -/
def maxShortZonedPrecision : Nat := 3

/-- A precision that was read off a width or a scale lies between one and what the mode stores. -/
def verifyPrecision (mode : Mode) (precision : Int) : Except Error Nat :=
  if precision < 1 ∨ (mode.maxPrecision : Int) < precision then
    .error (.metadataContract (.temporalPrecision precision mode))
  else .ok precision.toNat

def timePrecision (mode : Mode) (width : Int) : Except Error Nat :=
  if width = timeWidth then .ok 0 else verifyPrecision mode (width - timeWidth - 1)

/-- A width below that of no fraction leaves the precision to the scale. -/
def timestampPrecision (mode : Mode) (width scale : Int) : Except Error Nat :=
  if width < timestampWidth then verifyPrecision mode scale
  else if width = timestampWidth then .ok 0
  else verifyPrecision mode (width - timestampWidth - 1)

def dateExpression : Mode → String
  | .mysql => "CAST(? AS DATE)"
  | .oracle => "TO_DATE(?, 'SYYYY-MM-DD HH24:MI:SS')"

/-- Up to two digits the format leaves their number open. -/
def timestampExpression (precision : Nat) : String :=
  let fraction :=
    if precision = 0 then "" else if precision ≤ 2 then ".FF" else ".FF" ++ Text.numberText precision
  "TO_TIMESTAMP(?, 'SYYYY-MM-DD HH24:MI:SS" ++ fraction ++ "')"

end TypeBridge.Temporal
