import TypeBridge.Text.Case
import TypeBridge.Text.PrintTable

/-!
Text shown between double quotes with everything invisible spelled out: the usual backslash escapes,
and a hexadecimal code for characters that cannot be seen on their own.
-/
namespace TypeBridge.Text

def hexDigits (value : Nat) : List Char := Nat.toDigits 16 value

def isVisible (character : Char) : Bool :=
  let code := character.toNat
  if isAscii character then 0x20 ≤ code && code ≤ 0x7E
  else !inSpans hiddenSpans code && !inSpans extendingSpans code

def escapeChar (character : Char) : List Char :=
  match character with
  | '\x00' => ['\\', '0']
  | '\t' => ['\\', 't']
  | '\r' => ['\\', 'r']
  | '\n' => ['\\', 'n']
  | '\x22' => ['\\', '\x22']
  | '\\' => ['\\', '\\']
  | character =>
    if isVisible character then [character]
    else ['\\', 'u', '\x7b'] ++ hexDigits character.toNat ++ ['\x7d']

def quoted (text : String) : String :=
  String.ofList ('\x22' :: (text.toList.flatMap escapeChar ++ ['\x22']))

end TypeBridge.Text
