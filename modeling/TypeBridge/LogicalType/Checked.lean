import TypeBridge.Error

/-!
Constructors that check their arguments against the bounds of the type.
-/
namespace TypeBridge.LogicalType

def checkedDecimal (precision scale : Nat) : Except Error LogicalType :=
  if precision = 0 ∨ maxDecimalPrecision < precision then
    .error (.invalidValue (.decimalPrecision precision))
  else if precision < scale then .error (.invalidValue (.decimalScale precision scale))
  else .ok (decimal precision scale)

def checkedChar (length : Nat) : Except Error LogicalType :=
  if maxCharLength < length then .error (.invalidValue (.charLength length)) else .ok (char length)

/-- `name` is the type as the message calls it. -/
def checkedTemporal (name : String) (type : Nat → LogicalType) (precision : Nat) :
    Except Error LogicalType :=
  if maxTemporalPrecision < precision then
    .error (.invalidValue (.temporalPrecision name precision))
  else .ok (type precision)

def checkedTime (precision : Nat) : Except Error LogicalType := checkedTemporal "TIME" time precision

def checkedTimestamp (precision : Nat) : Except Error LogicalType :=
  checkedTemporal "TIMESTAMP" timestamp precision

def checkedTimestampWithTimeZone (precision : Nat) : Except Error LogicalType :=
  checkedTemporal "TIMESTAMP WITH TIME ZONE" timestampWithTimeZone precision

def checkedTimeWithTimeZone (precision : Nat) : Except Error LogicalType :=
  checkedTemporal "TIME WITH TIME ZONE" timeWithTimeZone precision

end TypeBridge.LogicalType
