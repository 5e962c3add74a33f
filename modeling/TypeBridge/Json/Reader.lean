import TypeBridge.Json.Value

/-!
Reading JSON text. Each reader takes the text that is left and gives what it read with the text after
it, or the reason why it stopped and where. Brackets may be nested 127 deep.

Whole numbers within 64 bits stay exact. Any other number is read in steps that may each round: the
digits are gathered in 64 bits, those that do not fit only counting towards the exponent, and the result
is multiplied or divided by a power of ten.
-/
namespace TypeBridge.Json

open TypeBridge.Text

inductive Cause where
  | endInValue
  | endInText
  | endInArray
  | endInObject
  | expectedValue
  | expectedWord
  | expectedColon
  | expectedCommaInArray
  | expectedCommaInObject
  | keyNotText
  | trailingComma
  | trailingCharacters
  | invalidNumber
  | numberOutOfRange
  | invalidEscape
  | loneSurrogate
  | unfinishedSurrogate
  | controlCharacter
  | nestedTooDeep
  deriving DecidableEq

def Cause.message : Cause → String
  | .endInValue => "EOF while parsing a value"
  | .endInText => "EOF while parsing a string"
  | .endInArray => "EOF while parsing a list"
  | .endInObject => "EOF while parsing an object"
  | .expectedValue => "expected value"
  | .expectedWord => "expected ident"
  | .expectedColon => "expected `:`"
  | .expectedCommaInArray => "expected `,` or `]`"
  | .expectedCommaInObject => "expected `,` or `\x7d`"
  | .keyNotText => "key must be a string"
  | .trailingComma => "trailing comma"
  | .trailingCharacters => "trailing characters"
  | .invalidNumber => "invalid number"
  | .numberOutOfRange => "number out of range"
  | .invalidEscape => "invalid escape"
  | .loneSurrogate => "lone leading surrogate in hex escape"
  | .unfinishedSurrogate => "unexpected end of hex escape"
  | .controlCharacter => "control character (\\u0000-\\u001F) found while parsing a string"
  | .nestedTooDeep => "recursion limit exceeded"

/-- Where reading stopped: at the text that was left, or some bytes into it. -/
structure Stop where
  cause : Cause
  rest : List Char
  ahead : Nat

def Stop.before (cause : Cause) (rest : List Char) : Stop := ⟨cause, rest, 0⟩

/-- At a character that does not belong there; its first byte counts as seen. -/
def Stop.at (cause : Cause) (rest : List Char) : Stop := ⟨cause, rest, 1⟩

def isSpace (character : Char) : Bool :=
  character == ' ' || character == '\n' || character == '\t' || character == '\r'

def skipSpace (text : List Char) : List Char := text.dropWhile isSpace

def readWord : List Char → List Char → Except Stop (List Char)
  | [], text => .ok text
  | _ :: _, [] => .error (.before .endInValue [])
  | expected :: word, character :: rest =>
    if character = expected then readWord word rest
    else .error (.at .expectedWord (character :: rest))

/-- Digits gathered below two to the power of 64, and the digits from the first that does not fit. -/
def gather (significand : Nat) : List Char → Nat × List Char
  | [] => (significand, [])
  | digit :: rest =>
    let next := 10 * significand + digitValue digit
    if next < twoTo 64 then gather next rest else (significand, digit :: rest)

/-- Division by ten to the power of 308 until the exponent is within reach or nothing is left. -/
def reduce (value : Binary64) : Nat → Int → Binary64 × Int
  | 0, exponent => (value, exponent)
  | fuel + 1, exponent =>
    if -308 ≤ exponent || value.isZero then (value, exponent)
    else reduce (value.dividedByNat (tenTo 308)) fuel (exponent + 308)

/-- The double for `significand` times ten to the power of `exponent`; nothing when it is too large. -/
def double? (negative : Bool) (significand : Nat) (exponent : Int) : Option Binary64 :=
  let start := Binary64.ofNat significand
  let magnitude :=
    if 308 < exponent then if start.isZero then some start else none
    else if 0 ≤ exponent then
      let product := start.timesNat (tenTo exponent.toNat)
      if product.isFinite then some product else none
    else
      let (value, left) := reduce start 4 exponent
      if left < -308 then some value else some (value.dividedByNat (tenTo left.natAbs))
  magnitude.map fun value => if negative then value.neg else value

def readDouble (negative : Bool) (significand : Nat) (exponent : Int) (rest : List Char) :
    Except Stop (Json × List Char) :=
  match double? negative significand exponent with
  | some value => .ok (double value, rest)
  | none => .error (.before .numberOutOfRange rest)

/-- The digits of an exponent as long as they stay below two to the power of 31, with the text from the
first digit that does not. -/
def gatherExponent (exponent : Nat) : List Char → Nat × List Char
  | [] => (exponent, [])
  | character :: rest =>
    if isDigit character then
      let next := 10 * exponent + digitValue character
      if next < twoTo 31 then gatherExponent next rest else (exponent, character :: rest)
    else (exponent, character :: rest)

def readExponentDigits (negative : Bool) (significand : Nat) (start : Int) (down : Bool)
    (text : List Char) : Except Stop (Json × List Char) :=
  match text with
  | [] => .error (.before .endInValue [])
  | character :: after =>
    if !isDigit character then .error (.at .invalidNumber (character :: after))
    else
      match gatherExponent (digitValue character) after with
      | (exponent, []) =>
        readDouble negative significand (if down then start - exponent else start + exponent) []
      | (exponent, next :: rest) =>
        if isDigit next then
          if significand ≠ 0 && !down then .error (.before .numberOutOfRange rest)
          else
            let zero := Binary64.ofNat 0
            .ok (double (if negative then zero.neg else zero), rest.dropWhile isDigit)
        else
          readDouble negative significand (if down then start - exponent else start + exponent)
            (next :: rest)

def readExponent (negative : Bool) (significand : Nat) (start : Int) (text : List Char) :
    Except Stop (Json × List Char) :=
  match text with
  | '+' :: rest => readExponentDigits negative significand start false rest
  | '-' :: rest => readExponentDigits negative significand start true rest
  | text => readExponentDigits negative significand start false text

def readFraction (negative : Bool) (significand : Nat) (start : Int) (text : List Char) :
    Except Stop (Json × List Char) :=
  let digits := text.takeWhile isDigit
  let rest := text.dropWhile isDigit
  if digits.isEmpty then
    .error (if rest.isEmpty then .before .endInValue [] else .at .invalidNumber rest)
  else
    let (significand, spare) := gather significand digits
    let exponent := start - (digits.length - spare.length : Nat)
    match rest with
    | 'e' :: after => readExponent negative significand exponent after
    | 'E' :: after => readExponent negative significand exponent after
    | rest => readDouble negative significand exponent rest

/-- What follows the digits before a point; `spare` counts those that did not fit. -/
def readNumberTail (negative : Bool) (significand spare : Nat) (text : List Char) :
    Except Stop (Json × List Char) :=
  match text with
  | '.' :: after => readFraction negative significand spare after
  | 'e' :: after => readExponent negative significand spare after
  | 'E' :: after => readExponent negative significand spare after
  | rest =>
    if spare ≠ 0 then readDouble negative significand spare rest
    else if !negative then .ok (integer significand, rest)
    else if significand = 0 || twoTo 63 < significand then
      .ok (double (Binary64.ofNat significand).neg, rest)
    else .ok (integer (-(significand : Int)), rest)

def readNumber (negative : Bool) (text : List Char) : Except Stop (Json × List Char) :=
  match text with
  | [] => .error (.before .endInValue [])
  | '0' :: rest =>
    match rest with
    | [] => readNumberTail negative 0 0 []
    | next :: after =>
      if isDigit next then .error (.at .invalidNumber (next :: after))
      else readNumberTail negative 0 0 (next :: after)
  | character :: rest =>
    if isDigit character then
      let (significand, spare) := gather 0 (text.takeWhile isDigit)
      readNumberTail negative significand spare.length (text.dropWhile isDigit)
    else .error (.at .invalidNumber (character :: rest))

def hexValue? (character : Char) : Option Nat :=
  let code := character.toNat
  if isDigit character then some (code - 0x30)
  else if 0x61 ≤ code && code ≤ 0x66 then some (code - 0x61 + 10)
  else if 0x41 ≤ code && code ≤ 0x46 then some (code - 0x41 + 10)
  else none

def hexUnit? (first second third fourth : Char) : Option Nat := do
  let first ← hexValue? first
  let second ← hexValue? second
  let third ← hexValue? third
  let fourth ← hexValue? fourth
  return ((first * 16 + second) * 16 + third) * 16 + fourth

def isLeadingSurrogate (unit : Nat) : Bool := 0xD800 ≤ unit && unit ≤ 0xDBFF

def isTrailingSurrogate (unit : Nat) : Bool := 0xDC00 ≤ unit && unit ≤ 0xDFFF

def joinSurrogates (leading trailing : Nat) : Char :=
  Char.ofNat ((leading - 0xD800) * 0x400 + (trailing - 0xDC00) + 0x10000)

def Stop.inHex (rest : List Char) : Stop :=
  if 4 ≤ (String.ofList rest).utf8ByteSize then ⟨.invalidEscape, rest, 4⟩ else .before .endInText []

def Stop.inPair : List Char → Stop
  | [] => .before .endInText []
  | '\\' :: [] => .before .endInText []
  | '\\' :: 'u' :: rest => .inHex rest
  | '\\' :: rest => .at .unfinishedSurrogate rest
  | rest => .at .unfinishedSurrogate rest

def escaped? : Char → Option Char
  | '\x22' => some '\x22'
  | '\\' => some '\\'
  | '/' => some '/'
  | 'b' => some '\x08'
  | 'f' => some '\x0c'
  | 'n' => some '\n'
  | 'r' => some '\r'
  | 't' => some '\t'
  | _ => none

def push (character : Char) :
    Except Stop (List Char × List Char) → Except Stop (List Char × List Char)
  | .ok (text, rest) => .ok (character :: text, rest)
  | .error stop => .error stop

def readText : List Char → Except Stop (List Char × List Char)
  | [] => .error (.before .endInText [])
  | '\x22' :: rest => .ok ([], rest)
  | '\\' :: 'u' :: a :: b :: c :: d :: rest =>
    match hexUnit? a b c d with
    | none => .error ⟨.invalidEscape, a :: b :: c :: d :: rest, 4⟩
    | some unit =>
      if isTrailingSurrogate unit then .error (.before .loneSurrogate rest)
      else if isLeadingSurrogate unit then
        match rest with
        | '\\' :: 'u' :: e :: f :: g :: h :: after =>
          match hexUnit? e f g h with
          | none => .error ⟨.invalidEscape, e :: f :: g :: h :: after, 4⟩
          | some trailing =>
            if isTrailingSurrogate trailing then push (joinSurrogates unit trailing) (readText after)
            else .error (.before .loneSurrogate after)
        | rest => .error (.inPair rest)
      else push (Char.ofNat unit) (readText rest)
  | '\\' :: 'u' :: rest => .error (.inHex rest)
  | '\\' :: character :: rest =>
    match escaped? character with
    | some meant => push meant (readText rest)
    | none => .error (.at .invalidEscape (character :: rest))
  | '\\' :: [] => .error (.before .endInText [])
  | character :: rest =>
    if character.toNat < 0x20 then .error (.at .controlCharacter (character :: rest))
    else push character (readText rest)

/-- The items up to the closing bracket; `fuel` bounds their number. -/
def readItems (item : List Char → Except Stop (Json × List Char)) :
    Nat → Bool → List Char → Except Stop (List Json × List Char)
  | 0, _, text => .error (.before .endInArray text)
  | fuel + 1, first, text =>
    let next (text : List Char) : Except Stop (List Json × List Char) := do
      let (value, rest) ← item text
      let (values, rest) ← readItems item fuel false rest
      return (value :: values, rest)
    match skipSpace text with
    | [] => .error (.before .endInArray [])
    | ']' :: rest => .ok ([], rest)
    | character :: rest =>
      if first then next (character :: rest)
      else if character = ',' then
        match skipSpace rest with
        | [] => .error (.before .endInValue [])
        | ']' :: rest => .error (.at .trailingComma (']' :: rest))
        | rest => next rest
      else .error (.at .expectedCommaInArray (character :: rest))

def readColon (text : List Char) : Except Stop (List Char) :=
  match skipSpace text with
  | [] => .error (.before .endInObject [])
  | ':' :: rest => .ok rest
  | rest => .error (.at .expectedColon rest)

def readMembers (item : List Char → Except Stop (Json × List Char)) :
    Nat → Bool → List Char → Except Stop (List (String × Json) × List Char)
  | 0, _, text => .error (.before .endInObject text)
  | fuel + 1, first, text =>
    let next (text : List Char) : Except Stop (List (String × Json) × List Char) := do
      let (key, rest) ← readText text
      let (value, rest) ← item (← readColon rest)
      let (members, rest) ← readMembers item fuel false rest
      return ((String.ofList key, value) :: members, rest)
    match skipSpace text with
    | [] => .error (.before .endInObject [])
    | '\x7d' :: rest => .ok ([], rest)
    | character :: rest =>
      if first then
        if character = '\x22' then next rest else .error (.at .keyNotText (character :: rest))
      else if character = ',' then
        match skipSpace rest with
        | [] => .error (.before .endInValue [])
        | '\x22' :: rest => next rest
        | '\x7d' :: rest => .error (.at .trailingComma ('\x7d' :: rest))
        | rest => .error (.at .keyNotText rest)
      else .error (.at .expectedCommaInObject (character :: rest))

def constant (value : Json) : Except Stop (List Char) → Except Stop (Json × List Char)
  | .ok rest => .ok (value, rest)
  | .error stop => .error stop

/-- A value that is not in brackets, from its first character. -/
def readScalar (text : List Char) : Except Stop (Json × List Char) :=
  match text with
  | [] => .error (.before .endInValue [])
  | 'n' :: rest => constant null (readWord ['u', 'l', 'l'] rest)
  | 't' :: rest => constant (boolean true) (readWord ['r', 'u', 'e'] rest)
  | 'f' :: rest => constant (boolean false) (readWord ['a', 'l', 's', 'e'] rest)
  | '-' :: rest => readNumber true rest
  | '\x22' :: rest => do
    let (value, rest) ← readText rest
    return (string (String.ofList value), rest)
  | character :: rest =>
    if isDigit character then readNumber false (character :: rest)
    else .error (.at .expectedValue (character :: rest))

/-- A value inside which brackets may still be nested `depth` deep. -/
def readValue : Nat → List Char → Except Stop (Json × List Char)
  | depth, text =>
    match skipSpace text with
    | '[' :: rest =>
      match depth with
      | 0 => .error (.at .nestedTooDeep ('[' :: rest))
      | depth + 1 => do
        let (items, rest) ← readItems (readValue depth) (rest.length + 1) true rest
        return (array items, rest)
    | '\x7b' :: rest =>
      match depth with
      | 0 => .error (.at .nestedTooDeep ('\x7b' :: rest))
      | depth + 1 => do
        let (members, rest) ← readMembers (readValue depth) (rest.length + 1) true rest
        return (object members, rest)
    | text => readScalar text

def maxDepth : Nat := 127

def readAll (text : List Char) : Except Stop Json := do
  let (value, rest) ← readValue maxDepth text
  match skipSpace rest with
  | [] => return value
  | rest => throw (.at .trailingCharacters rest)

/-- Why a text is not JSON, and where: lines from one, columns by bytes. -/
structure Fault where
  cause : Cause
  line : Nat
  column : Nat
  deriving DecidableEq

def Stop.locate (stop : Stop) (text : String) : Fault :=
  let left := (String.ofList stop.rest).utf8ByteSize
  let seen := text.toUTF8.toList.take (text.utf8ByteSize - left + stop.ahead)
  ⟨stop.cause, seen.count 10 + 1, (seen.reverse.takeWhile (· != 10)).length⟩

def Fault.message (fault : Fault) : String :=
  s!"{fault.cause.message} at line {numberText fault.line} column {numberText fault.column}"

def read (text : String) : Except Fault Json :=
  match readAll text.toList with
  | .ok value => .ok value
  | .error stop => .error (stop.locate text)

end TypeBridge.Json
