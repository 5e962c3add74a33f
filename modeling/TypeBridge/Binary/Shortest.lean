import TypeBridge.Binary.Float
import TypeBridge.Text.Numeral

/-!
The shortest decimal text of a binary number: the fewest digits that read back as the number, and of
those the nearest. A layout says how the digits are set out.
-/
namespace TypeBridge.Binary

inductive Tie where
  | up
  | even

/-- The decimals that read back as a magnitude lie between `low` and `high`, in quarters of the unit;
the ends count when `closed`. -/
structure Neighbourhood where
  low : Nat
  centre : Nat
  high : Nat
  closed : Bool

def Format.neighbourhood (format : Format) (bits : Nat) : Neighbourhood :=
  let centre := 4 * format.units bits
  let half := 2 * twoTo (format.grouping bits)
  let below :=
    if bits % format.binade = 0 && 0 < format.grouping bits then half / 2 else half
  ⟨centre - below, centre, centre + half, bits % 2 == 0⟩

/-- `digits` times ten to the power of `exponent`. -/
structure Digits where
  digits : Nat
  exponent : Int

def sides (decimal : Digits) (quarters scale : Nat) : Nat × Nat :=
  (decimal.digits * scale * tenTo decimal.exponent.toNat, quarters * tenTo (-decimal.exponent).toNat)

def Neighbourhood.contains (around : Neighbourhood) (scale : Nat) (decimal : Digits) : Bool :=
  let (left, low) := sides decimal around.low scale
  let (_, high) := sides decimal around.high scale
  if around.closed then low ≤ left && left ≤ high else low < left && left < high

/-- The better of the two neighbours of the centre on one decimal grid, when one reads back. -/
def Neighbourhood.pick? (around : Neighbourhood) (scale : Nat) (tie : Tie) (exponent : Int) :
    Option Digits :=
  let floor := around.centre * tenTo (-exponent).toNat / (scale * tenTo exponent.toNat)
  let lesser : Digits := ⟨floor, exponent⟩
  let greater : Digits := ⟨floor + 1, exponent⟩
  match around.contains scale lesser, around.contains scale greater with
  | false, false => none
  | true, false => some lesser
  | false, true => some greater
  | true, true =>
    let (below, centre) := sides lesser around.centre scale
    let (above, _) := sides greater around.centre scale
    let low := centre - below
    let high := above - centre
    if low < high then some lesser
    else if high < low then some greater
    else match tie with
      | .up => some greater
      | .even => some (if floor % 2 == 0 then lesser else greater)

def leadingPlace (numerator denominator : Nat) : Int :=
  if denominator ≤ numerator then (Text.numeral (numerator / denominator)).length
  else
    let below := (Text.numeral (denominator / numerator)).length - 1
    if denominator = numerator * tenTo below then 1 - (below : Int) else -(below : Int)

/-- The first grid with a hit, from `count` digits on; `fuel` bounds the number of grids. -/
def Neighbourhood.shortestFrom (around : Neighbourhood) (scale : Nat) (tie : Tie) (place : Int) :
    Nat → Nat → Digits
  | 0, _ => ⟨0, 0⟩
  | fuel + 1, count =>
    match around.pick? scale tie (place - count) with
    | some decimal => decimal
    | none => around.shortestFrom scale tie place fuel (count + 1)

/-- Seventeen digits always suffice for these formats. -/
def Format.shortest (format : Format) (tie : Tie) (bits : Nat) : Digits :=
  let around := format.neighbourhood bits
  let scale := 4 * twoTo format.unitPlaces
  around.shortestFrom scale tie (leadingPlace around.centre scale) 17 1

/-- How the digits of a number are set out. Positional notation is used when the power of ten of the
leading digit is in `positional`, or always when there are no bounds. -/
structure Layout where
  tie : Tie
  positional : Option (Int × Int)
  wholeMark : List Char
  notNumber : List Char
  infinity : List Char

def Layout.isPositional (layout : Layout) (power : Int) : Bool :=
  match layout.positional with
  | none => true
  | some (least, greatest) => least ≤ power && power ≤ greatest

def Layout.arrange (layout : Layout) (digits : List Char) (place : Int) : List Char :=
  if layout.isPositional (place - 1) then
    if place ≤ 0 then '0' :: '.' :: (List.replicate (-place).toNat '0' ++ digits)
    else if digits.length ≤ place.toNat then
      digits ++ List.replicate (place.toNat - digits.length) '0' ++ layout.wholeMark
    else digits.take place.toNat ++ '.' :: digits.drop place.toNat
  else
    let fraction := digits.drop 1
    let power := place - 1
    digits.take 1 ++ (if fraction.isEmpty then [] else '.' :: fraction) ++
      'e' :: (if power < 0 then '-' else '+') :: Text.numeral power.natAbs

def dropFinalZeros (digits : List Char) : List Char :=
  (digits.reverse.dropWhile (· == '0')).reverse

def Format.text (format : Format) (layout : Layout) (pattern : Nat) : List Char :=
  match format.datum pattern with
  | .nan => layout.notNumber
  | .infinite negative => (if negative then ['-'] else []) ++ layout.infinity
  | .finite negative units =>
    let sign := if negative then ['-'] else []
    if units = 0 then sign ++ '0' :: layout.wholeMark
    else
      let decimal := format.shortest layout.tie (pattern % format.signWeight)
      let digits := Text.numeral decimal.digits
      sign ++ layout.arrange (dropFinalZeros digits) (digits.length + decimal.exponent)

def plain : Layout := ⟨.up, none, [], ['N', 'a', 'N'], ['i', 'n', 'f']⟩

end TypeBridge.Binary

namespace TypeBridge

def Binary64.plainText (value : Binary64) : String :=
  String.ofList (Binary.double.text Binary.plain value.bits.toNat)

def Binary32.plainText (value : Binary32) : String :=
  String.ofList (Binary.single.text Binary.plain value.bits.toNat)

end TypeBridge
