import TypeBridge.Json.Value

/-!
JSON text: compact, or set out on lines with two blanks for each level. Strings escape the quote, the
backslash and the controls below the blank. Doubles stand in full from `1e-5` to below `1e16`, singles
from `1e-6` to below `1e13`; a number that is not finite is written as null.
-/
namespace TypeBridge.Json

def doubleLayout : Binary.Layout := ⟨.even, some (-5, 15), ['.', '0'], ['n', 'u', 'l', 'l'], []⟩

def singleLayout : Binary.Layout := ⟨.even, some (-6, 12), ['.', '0'], ['n', 'u', 'l', 'l'], []⟩

def nullChars : List Char := ['n', 'u', 'l', 'l']

def doubleChars (value : Binary64) : List Char :=
  match value.datum with
  | .finite _ _ => Binary.double.text doubleLayout value.bits.toNat
  | _ => nullChars

def singleChars (value : Binary32) : List Char :=
  match value.datum with
  | .finite _ _ => Binary.single.text singleLayout value.bits.toNat
  | _ => nullChars

def escapeChar (character : Char) : List Char :=
  match character with
  | '\x22' => ['\\', '\x22']
  | '\\' => ['\\', '\\']
  | '\x08' => ['\\', 'b']
  | '\t' => ['\\', 't']
  | '\n' => ['\\', 'n']
  | '\x0c' => ['\\', 'f']
  | '\r' => ['\\', 'r']
  | character =>
    if character.toNat < 0x20 then
      ['\\', 'u', '0', '0', Nat.digitChar (character.toNat / 16), Nat.digitChar (character.toNat % 16)]
    else [character]

def textChars (text : String) : List Char :=
  '\x22' :: (text.toList.flatMap escapeChar ++ ['\x22'])

mutual

def chars : Json → List Char
  | null => nullChars
  | boolean value => (if value then "true" else "false").toList
  | integer value => Text.signedNumeral value
  | double value => doubleChars value
  | single value => singleChars value
  | string value => textChars value
  | array [] => ['[', ']']
  | array (item :: rest) => '[' :: (chars item ++ itemChars rest)
  | object [] => ['\x7b', '\x7d']
  | object ((key, value) :: rest) =>
    '\x7b' :: (textChars key ++ ':' :: (chars value ++ memberChars rest))

def itemChars : List Json → List Char
  | [] => [']']
  | item :: rest => ',' :: (chars item ++ itemChars rest)

def memberChars : List (String × Json) → List Char
  | [] => ['\x7d']
  | (key, value) :: rest => ',' :: (textChars key ++ ':' :: (chars value ++ memberChars rest))

end

def compact (value : Json) : String := String.ofList value.chars

def lineBreak (level : Nat) : List Char := '\n' :: List.replicate (2 * level) ' '

mutual

/-- The form on lines; `level` counts the brackets around. -/
def prettyChars (level : Nat) : Json → List Char
  | array (item :: rest) =>
    '[' :: (lineBreak (level + 1) ++ prettyChars (level + 1) item ++ prettyItems level rest)
  | object ((key, value) :: rest) =>
    '\x7b' :: (lineBreak (level + 1) ++ textChars key ++ ':' :: ' ' :: (prettyChars (level + 1) value ++
      prettyMembers level rest))
  | other => chars other

def prettyItems (level : Nat) : List Json → List Char
  | [] => lineBreak level ++ [']']
  | item :: rest =>
    ',' :: (lineBreak (level + 1) ++ prettyChars (level + 1) item ++ prettyItems level rest)

def prettyMembers (level : Nat) : List (String × Json) → List Char
  | [] => lineBreak level ++ ['\x7d']
  | (key, value) :: rest =>
    ',' :: (lineBreak (level + 1) ++ textChars key ++ ':' :: ' ' :: (prettyChars (level + 1) value ++
      prettyMembers level rest))

end

def pretty (value : Json) : String := String.ofList (prettyChars 0 value)

end TypeBridge.Json
