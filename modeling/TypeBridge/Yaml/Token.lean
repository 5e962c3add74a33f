import TypeBridge.Yaml.Property

/-!
The tokens of a document. Blocks have no brackets of their own: a token begins one where a list or a map
starts right of the block around it, and a token ends it before the first token left of it. That a token
begins a key shows only at the colon after it, so tokens are put in front of it then.
-/
namespace TypeBridge.Yaml

inductive Token where
  | directive (directive : Directive)
  | documentStart
  | documentEnd
  | blockList
  | blockMap
  | blockEnd
  | openList
  | closeList
  | openMap
  | closeMap
  | comma
  | entry
  | key
  | value
  | alias (name : List Char)
  | anchor (name : List Char)
  | tag (tag : Tag)
  | scalar (text : List Char) (style : Style)
  deriving DecidableEq

def Token.directive? : Token → Option Directive
  | .directive content => some content
  | _ => none

/-- A token that may be the first of a key: how many tokens stand before it, whether it has to be one, and
its place. -/
structure KeyStart where
  tokens : Nat
  required : Bool
  index : Nat
  line : Nat
  column : Nat

/-- A key has to end in its line and within 1024 characters. -/
def KeyStart.endsBefore (key : KeyStart) (cursor : Cursor) : Bool :=
  key.line < cursor.line || key.index + 1024 < cursor.index

/-- The tokens so far, last one first, and what the next one depends on: the columns of the open blocks,
innermost first, and the token that may begin a key, inside the innermost brackets and around each. -/
structure Scan where
  cursor : Cursor
  tokens : List Token
  blocks : List Nat
  key : Option KeyStart
  outerKeys : List (Option KeyStart)
  keyAllowed : Bool

namespace Scan

def start (cursor : Cursor) : Scan := ⟨cursor, [], [], none, [], true⟩

def flow (scan : Scan) : Bool := !scan.outerKeys.isEmpty

/-- The first column right of the innermost block. -/
def margin (scan : Scan) : Nat :=
  match scan.blocks with
  | [] => 0
  | column :: _ => column + 1

def add (scan : Scan) (token : Token) (keyAllowed : Bool) (after : Cursor) : Scan :=
  { scan with tokens := token :: scan.tokens, keyAllowed := keyAllowed, cursor := after }

def insert (scan : Scan) (place : Nat) (token : Token) : Scan :=
  { scan with tokens := scan.tokens.insertIdx (scan.tokens.length - place) token }

def dropKey? (scan : Scan) : Option Scan :=
  if scan.key.any (·.required) then none else some { scan with key := none }

/-- The next token may begin a key. It has to where the innermost block goes on. -/
def saveKey? (scan : Scan) : Option Scan := do
  if !scan.keyAllowed then return scan
  let cursor := scan.cursor
  let required := !scan.flow && scan.blocks.head? == some cursor.column
  let key := ⟨scan.tokens.length, required, cursor.index, cursor.line, cursor.column⟩
  return { (← scan.dropKey?) with key := some key }

def expireKeys? (scan : Scan) : Option Scan := do
  let expired := fun key : KeyStart => key.endsBefore scan.cursor
  guard ((scan.key :: scan.outerKeys).all fun key => !key.any fun key => key.required && expired key)
  return { scan with
    key := scan.key.filter (!expired ·)
    outerKeys := scan.outerKeys.map fun key => key.filter (!expired ·) }

/-- Begins a block at a column after the first `place` tokens, unless the innermost block is as far right. -/
def openBlock (scan : Scan) (column place : Nat) (token : Token) : Scan :=
  if scan.flow || scan.blocks.head?.any (column ≤ ·) then scan
  else { scan.insert place token with blocks := column :: scan.blocks }

def openBlockHere? (scan : Scan) (token : Token) : Option Scan :=
  if scan.flow then some scan
  else if scan.keyAllowed then
    some (scan.openBlock scan.cursor.column scan.tokens.length token)
  else none

/-- Ends the innermost blocks as long as `ends` holds of their columns. Inside brackets no block ends. -/
def closeBlocks (scan : Scan) (ends : Nat → Bool) : Scan :=
  if scan.flow then scan
  else
    let ended := scan.blocks.takeWhile ends
    { scan with
      tokens := ended.map (fun _ => .blockEnd) ++ scan.tokens
      blocks := scan.blocks.drop ended.length }

def closeAllBlocks (scan : Scan) : Scan := scan.closeBlocks fun _ => true

/-- The scan at the next token. Tabs may stand before it where no key is allowed. -/
def skipBlank (scan : Scan) : Nat → Scan
  | 0 => scan
  | fuel + 1 =>
    let tabs := scan.flow || !scan.keyAllowed
    let blank := scan.cursor.skipWhile fun next => next == ' ' || tabs && next == '\t'
    let ended := if blank.startsWith '#' then blank.skipWhile (!isBreak ·) else blank
    if ended.rest.head?.any isBreak then
      { scan with cursor := ended.step, keyAllowed := scan.keyAllowed || !scan.flow }.skipBlank fuel
    else { scan with cursor := ended }

def readDocumentMark? (scan : Scan) (token : Token) : Option Scan := do
  return (← scan.closeAllBlocks.dropKey?).add token false (scan.cursor.skip 3)

def openBracket? (scan : Scan) (token : Token) : Option Scan := do
  let scan ← scan.saveKey?
  let inner := { scan with key := none, outerKeys := scan.key :: scan.outerKeys }
  return inner.add token true scan.cursor.step

def closeBracket? (scan : Scan) (token : Token) : Option Scan := do
  let scan ← scan.dropKey?
  let outer := match scan.outerKeys with
    | [] => scan
    | key :: outerKeys => { scan with key := key, outerKeys := outerKeys }
  return outer.add token false scan.cursor.step

def readItemMark? (scan : Scan) : Option Scan := do
  return (← (← scan.openBlockHere? .blockList).dropKey?).add .entry true scan.cursor.step

def readKeyMark? (scan : Scan) : Option Scan := do
  return (← (← scan.openBlockHere? .blockMap).dropKey?).add .key (!scan.flow) scan.cursor.step

/-- The colon after a key. The token that may begin the key does; without one the key has to be marked or
empty. -/
def readValue? (scan : Scan) : Option Scan := do
  match scan.key with
  | some key =>
    let marked := (scan.insert key.tokens .key).openBlock key.column key.tokens .blockMap
    return { marked with key := none }.add .value false scan.cursor.step
  | none => return (← scan.openBlockHere? .blockMap).add .value (!scan.flow) scan.cursor.step

def readWhole? (scan : Scan) (token? : Cursor → Option (Token × Cursor)) : Option Scan := do
  let scan ← scan.saveKey?
  let (token, after) ← token? scan.cursor
  return scan.add token false after

def readQuotedScalar? (scan : Scan) (single : Bool) : Option Scan :=
  scan.readWhole? fun cursor => do
    let (text, after) ← readQuoted single (cursor.rest.length + 1) cursor.step
    return (.scalar text .quoted, after)

/-- A plain scalar. A key is allowed after it when it ends with its line. -/
def readPlainScalar? (scan : Scan) : Option Scan := do
  let scan ← scan.saveKey?
  let cursor := scan.cursor
  let (text, broken, after) ← readPlain scan.flow scan.margin (cursor.rest.length + 1) cursor
  return scan.add (.scalar text .plain) broken after

def readBlockScalar? (scan : Scan) (literal : Bool) : Option Scan := do
  let scan ← scan.dropKey?
  let (text, after) ← readBlock literal scan.margin scan.cursor.step
  return scan.add (.scalar text (if literal then .literal else .folded)) true after

/-- Characters that no plain scalar begins with, unless it goes on right after some of them. -/
def isIndicator (character : Char) : Bool :=
  "-?:,[]\x7b\x7d#&*!|>%@".contains character || ['\x27', '\x22', '\x60'].contains character

def beginsPlain (flow : Bool) (character : Char) (rest : List Char) : Bool :=
  if character == '-' then !whiteFollows rest
  else if character == '?' || character == ':' then !flow && !whiteFollows rest
  else !isWhite character && !isIndicator character

def readToken? (scan : Scan) : Option Scan :=
  let flow := scan.flow
  match scan.cursor.rest with
  | [] => none
  | character :: rest =>
    let alone := flow || whiteFollows rest
    if character == '%' && scan.cursor.column == 0 then do
      let scan ← scan.closeAllBlocks.dropKey?
      let (directive, after) ← readDirective scan.cursor.step
      return scan.add (.directive directive) false after
    else if scan.cursor.atMark '-' then scan.readDocumentMark? .documentStart
    else if scan.cursor.atMark '.' then scan.readDocumentMark? .documentEnd
    else if character == '[' then scan.openBracket? .openList
    else if character == '\x7b' then scan.openBracket? .openMap
    else if character == ']' then scan.closeBracket? .closeList
    else if character == '\x7d' then scan.closeBracket? .closeMap
    else if character == ',' then do return (← scan.dropKey?).add .comma true scan.cursor.step
    else if character == '-' && whiteFollows rest then scan.readItemMark?
    else if character == '?' && alone then scan.readKeyMark?
    else if character == ':' && alone then scan.readValue?
    else if character == '*' then scan.readWhole? fun cursor =>
      (readAnchor cursor.step).map fun (name, after) => (.alias name, after)
    else if character == '&' then scan.readWhole? fun cursor =>
      (readAnchor cursor.step).map fun (name, after) => (.anchor name, after)
    else if character == '!' then scan.readWhole? fun cursor =>
      (readTag flow cursor).map fun (tag, after) => (.tag tag, after)
    else if character == '|' && !flow then scan.readBlockScalar? true
    else if character == '>' && !flow then scan.readBlockScalar? false
    else if character == '\x27' then scan.readQuotedScalar? true
    else if character == '\x22' then scan.readQuotedScalar? false
    else if beginsPlain flow character rest then scan.readPlainScalar?
    else none

def tokens? (scan : Scan) : Nat → Option (List Token)
  | 0 => none
  | fuel + 1 => do
    let scan ← (scan.skipBlank (scan.cursor.rest.length + 1)).expireKeys?
    let scan := scan.closeBlocks (scan.cursor.column < ·)
    if scan.cursor.rest.isEmpty then do
      return (← scan.closeAllBlocks.dropKey?).tokens.reverse
    else (← scan.readToken?).tokens? fuel

end Scan

/-- A mark of the order of octets may stand in front of a text. -/
def skipOrderMark (cursor : Cursor) : Cursor :=
  if cursor.startsWith (Char.ofNat 0xFEFF) then cursor.step else cursor

def scanTokens? (text : List Char) : Option (List Token) := do
  let text := unifyBreaks text
  guard (text.all isPermitted)
  (Scan.start (skipOrderMark (.start text))).tokens? (text.length + 1)

end TypeBridge.Yaml
