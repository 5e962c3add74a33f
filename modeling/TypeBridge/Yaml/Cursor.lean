/-!
The characters of YAML by their roles, and places in a text. Lines end in a line feed, a line separator or a
paragraph separator; the other ways to end a line are made line feeds before anything is read.
-/
namespace TypeBridge.Yaml

/-- Carriage returns, alone or before a line feed, and next-line characters become line feeds. -/
def unifyBreaks : List Char → List Char
  | [] => []
  | '\r' :: '\n' :: rest => '\n' :: unifyBreaks rest
  | character :: rest =>
    (if character == '\r' || character.toNat == 0x85 then '\n' else character) :: unifyBreaks rest

def isPermitted (character : Char) : Bool :=
  let code := character.toNat
  code == 9 || code == 10 || (0x20 ≤ code && code ≤ 0x7E) || (0xA0 ≤ code && code ≤ 0xFFFD) ||
    0x10000 ≤ code

def isBreak (character : Char) : Bool :=
  character == '\n' || character.toNat == 0x2028 || character.toNat == 0x2029

def isGap (character : Char) : Bool := character == ' ' || character == '\t'

def isWhite (character : Char) : Bool := isGap character || isBreak character

def whiteFollows : List Char → Bool
  | [] => true
  | character :: _ => isWhite character

def lineEnds : List Char → Bool
  | [] => true
  | character :: _ => isBreak character

def isFlowIndicator (character : Char) : Bool :=
  [',', '[', ']', '\x7b', '\x7d'].contains character

def isNameCharacter (character : Char) : Bool :=
  character.isAlphanum || character == '_' || character == '-'

/-- The text that is left, with its place: characters before it, the line and the column. -/
structure Cursor where
  rest : List Char
  index : Nat
  line : Nat
  column : Nat

namespace Cursor

def start (text : List Char) : Cursor := ⟨text, 0, 0, 0⟩

def step (cursor : Cursor) : Cursor :=
  match cursor.rest with
  | [] => cursor
  | character :: rest =>
    if isBreak character then ⟨rest, cursor.index + 1, cursor.line + 1, 0⟩
    else ⟨rest, cursor.index + 1, cursor.line, cursor.column + 1⟩

def skip (cursor : Cursor) : Nat → Cursor
  | 0 => cursor
  | count + 1 => cursor.step.skip count

def skipWhile (cursor : Cursor) (skips : Char → Bool) : Cursor :=
  cursor.skip (cursor.rest.takeWhile skips).length

/-- The place where `rest`, the end of the text at the cursor, begins. -/
def upTo (cursor : Cursor) (rest : List Char) : Cursor :=
  cursor.skip (cursor.rest.length - rest.length)

def startsWith (cursor : Cursor) (character : Char) : Bool := cursor.rest.head? == some character

/-- Three characters at the start of a line, with white space after them. -/
def atMark (cursor : Cursor) (mark : Char) : Bool :=
  cursor.column == 0 && cursor.rest.take 3 == [mark, mark, mark] && whiteFollows (cursor.rest.drop 3)

def atDocumentMark (cursor : Cursor) : Bool := cursor.atMark '-' || cursor.atMark '.'

/-- The place after the rest of a line that holds nothing but a comment. -/
def skipLineEnd? (cursor : Cursor) : Option Cursor :=
  let blank := cursor.skipWhile isGap
  let ended := if blank.startsWith '#' then blank.skipWhile (!isBreak ·) else blank
  if lineEnds ended.rest then some ended.step else none

end Cursor

end TypeBridge.Yaml
