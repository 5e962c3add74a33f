import TypeBridge.Yaml.Scalar

/-!
What a node may carry besides its content: an anchor that names it and a tag that types it, and the
directives that declare the handles of tags. The text of a tag may hold any octets, written with percent
signs, so tags are octets until all of one is known.
-/
namespace TypeBridge.Yaml

open TypeBridge.Text

def asciiOctets (text : List Char) : List UInt8 := text.map (·.toNat.toUInt8)

/-- The text of octets; empty when they are not the encoding of a text. -/
def octetText (octets : List UInt8) : String := (String.fromUTF8? ⟨octets.toArray⟩).getD ""

def trailingOctets? (first : Nat) : Option Nat :=
  if first < 0x80 then some 0
  else if first < 0xC0 then none
  else if first < 0xE0 then some 1
  else if first < 0xF0 then some 2
  else if first < 0xF8 then some 3
  else none

/-- Characters that tags are made of. Commas and brackets belong to tags between angle brackets only. -/
def isTagCharacter (verbatim : Bool) (character : Char) : Bool :=
  isNameCharacter character || ";/?:@&=+$.!~*'()".contains character ||
    verbatim && [',', '[', ']'].contains character

/-- The octets of part of a tag, and the text after it. `pending` octets of an escaped character are still
to come. -/
def tagOctets? (verbatim : Bool) : Nat → List Char → Option (List UInt8 × List Char)
  | pending, '%' :: high :: low :: rest => do
    let octet ← hexNumber? [high, low]
    let pending ←
      if pending = 0 then trailingOctets? octet
      else if 0x80 ≤ octet && octet < 0xC0 then some (pending - 1)
      else none
    let (more, rest) ← tagOctets? verbatim pending rest
    return (octet.toUInt8 :: more, rest)
  | pending, character :: rest => do
    guard (pending = 0 && character != '%')
    if isTagCharacter verbatim character then do
      let (more, rest) ← tagOctets? verbatim 0 rest
      return (character.toNat.toUInt8 :: more, rest)
    else return ([], character :: rest)
  | pending, [] => if pending = 0 then some ([], []) else none

def someTagOctets? (verbatim : Bool) (text : List Char) : Option (List UInt8 × List Char) :=
  (tagOctets? verbatim 0 text).filter (!·.1.isEmpty)

/-- A tag in two parts: a handle, which is declared elsewhere unless it is empty, and what is appended to
the meaning of the handle. -/
structure Tag where
  handle : List Char
  suffix : List UInt8
  deriving DecidableEq

def handleText : List Char → List Char
  | [] => []
  | mark :: rest =>
    let name := rest.takeWhile isNameCharacter
    mark :: name ++ ((rest.drop name.length).take 1).filter (· == '!')

/-- Two marks, with or without a name between them. -/
def isHandle (text : List Char) : Bool := 2 ≤ text.length && text.getLast? == some '!'

def tag? : List Char → Option (Tag × List Char)
  | '!' :: '<' :: rest => do
    let (octets, after) ← someTagOctets? true rest
    guard (after.head? == some '>')
    return (⟨[], octets⟩, after.drop 1)
  | text => do
    let handle := handleText text
    let after := text.drop handle.length
    if isHandle handle then do
      let (octets, after) ← someTagOctets? false after
      return (⟨handle, octets⟩, after)
    else do
      let (octets, after) ← tagOctets? false 0 after
      match asciiOctets (handle.drop 1) ++ octets with
      | [] => return (⟨[], asciiOctets ['!']⟩, after)
      | suffix => return (⟨['!'], suffix⟩, after)

/-- A tag ends before white space, inside brackets also before a comma. -/
def readTag (flow : Bool) (cursor : Cursor) : Option (Tag × Cursor) := do
  let (tag, after) ← tag? cursor.rest
  guard (whiteFollows after || flow && after.head? == some ',')
  return (tag, cursor.upTo after)

/-- The name of an anchor from after its indicator. It ends before white space or some indicators. -/
def readAnchor (cursor : Cursor) : Option (List Char × Cursor) := do
  let name := cursor.rest.takeWhile isNameCharacter
  let after := cursor.skip name.length
  guard (!name.isEmpty && (whiteFollows after.rest ||
    after.rest.head?.any fun next => ['?', ':', ',', ']', '\x7d', '%', '@', '\x60'].contains next))
  return (name, after)

inductive Directive where
  | version (major minor : Nat)
  | handle (name : List Char) (meaning : List UInt8)
  deriving DecidableEq

namespace Directive

def version? : Directive → Option (Nat × Nat)
  | .version major minor => some (major, minor)
  | .handle .. => none

def handle? : Directive → Option (List Char × List UInt8)
  | .version .. => none
  | .handle name meaning => some (name, meaning)

end Directive

def versionNumber? (text : List Char) : Option (Nat × List Char) := do
  let digits := text.takeWhile isDigit
  guard (!digits.isEmpty && digits.length ≤ 9)
  return (digitsValue digits, text.drop digits.length)

def directive? (text : List Char) : Option (Directive × List Char) := do
  let name := text.takeWhile isNameCharacter
  let after := text.drop name.length
  guard (whiteFollows after)
  let value := after.dropWhile isGap
  match String.ofList name with
  | "YAML" => do
    let (major, after) ← versionNumber? value
    guard (after.head? == some '.')
    let (minor, after) ← versionNumber? (after.drop 1)
    return (.version major minor, after)
  | "TAG" => do
    guard (value.head? == some '!')
    let handle := handleText value
    guard (isHandle handle || handle.length = 1)
    let after := value.drop handle.length
    guard (after.head?.any isGap)
    let (meaning, after) ← someTagOctets? true (after.dropWhile isGap)
    guard (whiteFollows after)
    return (.handle handle meaning, after)
  | _ => none

def readDirective (cursor : Cursor) : Option (Directive × Cursor) := do
  let (directive, after) ← directive? cursor.rest
  return (directive, ← (cursor.upTo after).skipLineEnd?)

end TypeBridge.Yaml
