import TypeBridge.Power

/-!
Numerals: decimal digits of a number, and numbers read from digits. A number that is read may carry a
plus sign and must lie within the bounds that the reader is given; only the ASCII digits count.
-/
namespace TypeBridge.Text

def isDigit (character : Char) : Bool := 0x30 ≤ character.toNat && character.toNat ≤ 0x39

def digitValue (character : Char) : Nat := character.toNat - 0x30

/-- The value of a list of digits that follows the digits of `value`. -/
def digitsFrom (value : Nat) (digits : List Char) : Nat :=
  digits.foldl (fun value digit => 10 * value + digitValue digit) value

def digitsValue (digits : List Char) : Nat := digitsFrom 0 digits

def numeral (value : Nat) : List Char := Nat.toDigits 10 value

def signedNumeral (value : Int) : List Char :=
  match value with
  | .ofNat value => numeral value
  | .negSucc value => '-' :: numeral (value + 1)

def padZeros (width : Nat) (digits : List Char) : List Char :=
  List.replicate (width - digits.length) '0' ++ digits

def readDigits? (text : List Char) : Option Nat :=
  if text.isEmpty || !text.all isDigit then none else some (digitsValue text)

def readNatural? (bound : Nat) (text : List Char) : Option Nat :=
  let digits := match text with
    | '+' :: rest => rest
    | text => text
  (readDigits? digits).filter (· < bound)

def readInteger? (bound : Nat) (text : List Char) : Option Int :=
  let value := match text with
    | '-' :: rest => (readDigits? rest).map fun value => -(value : Int)
    | '+' :: rest => (readDigits? rest).map Int.ofNat
    | text => (readDigits? text).map Int.ofNat
  value.filter fun value => -(bound : Int) ≤ value && value < bound

def numberText (value : Nat) : String := String.ofList (numeral value)

def integerText (value : Int) : String := String.ofList (signedNumeral value)

def byteHex (byte : UInt8) : List Char :=
  [Nat.digitChar (byte.toNat / 16), Nat.digitChar (byte.toNat % 16)]

end TypeBridge.Text
