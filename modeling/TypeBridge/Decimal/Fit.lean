import TypeBridge.Decimal.Text

/-!
Fitting a decimal into a column type: exactly the digits after the point that the type asks for, and
not more before it than the type leaves.
-/
namespace TypeBridge

/-- How a digit that has to go is rounded off. Under `unnecessary` none may. -/
inductive RoundingMode where
  | up
  | down
  | ceiling
  | floor
  | halfUp
  | halfDown
  | halfEven
  | unnecessary
  deriving DecidableEq

namespace RoundingMode

def name : RoundingMode → String
  | up => "up"
  | down => "down"
  | ceiling => "ceiling"
  | floor => "floor"
  | halfUp => "half-up"
  | halfDown => "half-down"
  | halfEven => "half-even"
  | unnecessary => "unnecessary"

def all : List RoundingMode := [up, down, ceiling, floor, halfUp, halfDown, halfEven, unnecessary]

def ofName? (text : String) : Option RoundingMode := all.find? (·.name == text)

/-- Whether a magnitude of `quotient + remainder / divisor` goes up to `quotient + 1`; no answer where
rounding is not allowed. -/
def carries? (mode : RoundingMode) (negative : Bool) (quotient remainder divisor : Nat) :
    Option Bool :=
  match mode with
  | up => some (remainder != 0)
  | down => some false
  | ceiling => some (!negative && remainder != 0)
  | floor => some (negative && remainder != 0)
  | halfUp => some (divisor ≤ 2 * remainder)
  | halfDown => some (divisor < 2 * remainder)
  | halfEven => some (divisor < 2 * remainder || (divisor == 2 * remainder && quotient % 2 == 1))
  | unnecessary => none

end RoundingMode

namespace Decimal

inductive FitFault where
  | roundingNecessary
  | scaleOutOfReach
  | tooWide
  deriving DecidableEq

def shorten? (value : Decimal) (scale : Nat) (mode : RoundingMode) : Option Decimal :=
  let divisor := tenTo (value.scale - scale)
  let quotient := value.coefficient / divisor
  match mode.carries? value.negative quotient (value.coefficient % divisor) divisor with
  | some carries => make? value.negative (if carries then quotient + 1 else quotient) scale
  | none => none

/-- Bring the number to `scale` digits after the point and check that it stays within `precision`
digits. Without a mode no digit may be rounded off. -/
def fit (value : Decimal) (precision scale : Nat) (mode : Option RoundingMode) :
    Except FitFault Decimal := do
  let result ←
    if scale < value.scale then
      match mode.bind (value.shorten? scale) with
      | some shortened => pure shortened
      | none => throw .roundingNecessary
    else pure (value.extend (scale - value.scale))
  if result.scale ≠ scale then throw .scaleOutOfReach
  if precision - scale < 28 ∧ tenTo (precision - scale) ≤ result.integerPart then throw .tooWide
  return result

end Decimal

end TypeBridge
