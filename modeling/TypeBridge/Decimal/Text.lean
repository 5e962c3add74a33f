import TypeBridge.Decimal.Basic
import TypeBridge.Text.Numeral

/-!
Decimal numbers as text. Writing shows every digit of the scale. Reading takes an optional sign,
digits with at most one point, and underscores once a digit has been seen; digits that the coefficient
cannot hold are rounded off. Text that is not of this form may still be one with an exponent.
-/
namespace TypeBridge.Decimal

open TypeBridge.Text

def digits (value : Decimal) : List Char := padZeros (value.scale + 1) (numeral value.coefficient)

def chars (value : Decimal) : List Char :=
  let digits := value.digits
  let whole := digits.length - value.scale
  (if value.negative then ['-'] else []) ++ digits.take whole ++
    (if value.scale = 0 then [] else '.' :: digits.drop whole)

def text (value : Decimal) : String := String.ofList value.chars

inductive ReadFault where
  | empty
  | noDigits
  | twoPoints
  | misplacedSeparator
  | unknownCharacter
  | tooManyDigits
  | roundedPastMaximum
  | badExponent
  | exponentTooLarge (exponent : Nat)
  | pastMaximum
  deriving DecidableEq

def ReadFault.message : ReadFault → String
  | .empty => "Invalid decimal: empty"
  | .noDigits => "Invalid decimal: no digits found"
  | .twoPoints => "Invalid decimal: two decimal points"
  | .misplacedSeparator => "Invalid decimal: must start lead with a number"
  | .unknownCharacter => "Invalid decimal: unknown character"
  | .tooManyDigits => "Invalid decimal: overflow from too many digits"
  | .roundedPastMaximum => "Invalid decimal: overflow from mantissa after rounding"
  | .badExponent => "Failed to parse"
  | .exponentTooLarge exponent =>
    s!"Scale exceeds the maximum precision allowed: {numberText exponent} > 28"
  | .pastMaximum => "Number exceeds maximum value that can be represented."

/-- What has been read so far. `started` holds once a digit has been seen. -/
structure Reading where
  negative : Bool
  started : Bool
  point : Bool
  coefficient : Nat
  scale : Nat

def Reading.finish (reading : Reading) : Except ReadFault Decimal :=
  if reading.started then
    match make? reading.negative reading.coefficient reading.scale with
    | some value => .ok value
    | none => .error .pastMaximum
  else .error .noDigits

def invalidCharacter (character : Char) : ReadFault :=
  if character = '.' then .twoPoints
  else if character = '_' then .misplacedSeparator
  else .unknownCharacter

/-- End before `character`, which is the first one dropped: from five up it adds one in the last place,
and a coefficient that this carries past the maximum gives up one more digit. -/
def Reading.roundOff (reading : Reading) (character : Char) : Except ReadFault Decimal :=
  if !isDigit character && character != '_' then .error (invalidCharacter character)
  else if isDigit character && 5 ≤ digitValue character then
    if reading.coefficient + 1 ≤ maxCoefficient then
      Reading.finish { reading with coefficient := reading.coefficient + 1 }
    else if reading.scale = 0 then .error .roundedPastMaximum
    else Reading.finish
      { reading with coefficient := (reading.coefficient + 5) / 10, scale := reading.scale - 1 }
  else reading.finish

def Reading.run (reading : Reading) : List Char → Except ReadFault Decimal
  | [] => reading.finish
  | character :: rest =>
    if reading.point && maxScale ≤ reading.scale then reading.roundOff character
    else if isDigit character then
      let coefficient := 10 * reading.coefficient + digitValue character
      if coefficient ≤ maxCoefficient then
        let scale := if reading.point then reading.scale + 1 else 0
        Reading.run { reading with started := true, coefficient := coefficient, scale := scale } rest
      else if reading.point then reading.roundOff character
      else .error .tooManyDigits
    else if character = '.' && !reading.point then
      Reading.run { reading with point := true } rest
    else if character = '_' && reading.started then reading.run rest
    else .error (invalidCharacter character)

def readPlain (text : List Char) : Except ReadFault Decimal :=
  match text with
  | [] => .error .empty
  | '-' :: rest => Reading.run ⟨true, false, false, 0, 0⟩ rest
  | '+' :: rest => Reading.run ⟨false, false, false, 0, 0⟩ rest
  | text => Reading.run ⟨false, false, false, 0, 0⟩ text

/-- Fewer digits after the point: the first dropped digit adds one in the last place from five up. -/
def shortenHalfUp (value : Decimal) (scale : Nat) : Option Decimal :=
  let divisor := tenTo (value.scale - scale)
  let roundsUp := 5 ≤ value.coefficient / tenTo (value.scale - scale - 1) % 10
  make? value.negative (value.coefficient / divisor + (if roundsUp then 1 else 0)) scale

def raise (value : Decimal) (exponent : Nat) : Except ReadFault Decimal :=
  if exponent ≤ value.scale then
    match make? value.negative value.coefficient (value.scale - exponent) with
    | some raised => .ok raised
    | none => .error .pastMaximum
  else if maxScale < exponent then .error (.exponentTooLarge exponent)
  else
    match make? value.negative (value.coefficient * tenTo (exponent - value.scale)) 0 with
    | some raised => .ok raised
    | none => .error .pastMaximum

def lower (value : Decimal) (exponent : Nat) : Except ReadFault Decimal :=
  if maxScale < exponent then .error (.exponentTooLarge exponent)
  else
    let room := maxScale - exponent
    let shortened := if value.scale ≤ room then some value else value.shortenHalfUp room
    match shortened.bind fun short => make? short.negative short.coefficient (short.scale + exponent) with
    | some lowered => .ok lowered
    | none => .error .pastMaximum

def isExponentMark (character : Char) : Bool := character == 'e' || character == 'E'

def readScientific (text : List Char) : Except ReadFault Decimal := do
  let base ← readPlain (text.takeWhile (!isExponentMark ·))
  match (text.dropWhile (!isExponentMark ·)).drop 1 with
  | '-' :: exponent =>
    match readNatural? (twoTo 32) exponent with
    | some exponent => base.lower exponent
    | none => .error .badExponent
  | exponent =>
    match readNatural? (twoTo 32) exponent with
    | some exponent => base.raise exponent
    | none => .error .badExponent

def read (text : List Char) : Except ReadFault Decimal :=
  match readPlain text with
  | .ok value => .ok value
  | .error fault => if text.any isExponentMark then readScientific text else .error fault

end TypeBridge.Decimal
