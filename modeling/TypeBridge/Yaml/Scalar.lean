import TypeBridge.Text.Numeral
import TypeBridge.Yaml.Cursor

/-!
The text of scalars: plain, between quotes, and in blocks of lines. Inside plain and quoted scalars white
space with a break in it is folded; blocks keep their lines or fold them.
-/
namespace TypeBridge.Yaml

open TypeBridge.Text

inductive Style where
  | plain
  | quoted
  | literal
  | folded
  deriving DecidableEq

/-- White space between two words: a single line feed becomes a space, and before others the first is
dropped. Line and paragraph separators stay. -/
def foldWhite (white : List Char) : List Char :=
  match white.filter isBreak with
  | [] => white
  | ['\n'] => [' ']
  | '\n' :: more => more
  | breaks => breaks

/-- The characters of a plain scalar up to white space or to what ends the scalar. Inside brackets a colon
must not stand before an indicator. -/
def plainWord? (flow : Bool) : List Char → Option (List Char)
  | [] => some []
  | character :: rest =>
    if isWhite character then some []
    else if flow && character == ':' && rest.head?.any (fun next => next == '?' || isFlowIndicator next) then
      none
    else if character == ':' && whiteFollows rest || flow && isFlowIndicator character then some []
    else (plainWord? flow rest).map (character :: ·)

/-- A tab that stands left of `margin`, after spaces only, on a line that begins in `white`. -/
def indentsByTab (margin : Nat) : List Char → Bool
  | [] => false
  | character :: rest =>
    (isBreak character && (rest.takeWhile (· == ' ')).length < margin &&
      (rest.dropWhile (· == ' ')).head? == some '\t') || indentsByTab margin rest

/-- A plain scalar: its text, whether a break follows, and the place after that white space. Lines after the
first have to begin at `margin` or right of it, except inside brackets. -/
def readPlain (flow : Bool) (margin : Nat) : Nat → Cursor → Option (List Char × Bool × Cursor)
  | 0, _ => none
  | fuel + 1, cursor => do
    let word ← plainWord? flow cursor.rest
    let ended := cursor.skip word.length
    let white := ended.rest.takeWhile isWhite
    if white.isEmpty then return (word, false, ended)
    guard (!indentsByTab margin white)
    let broken := white.any isBreak
    let next := ended.skip white.length
    if (!flow && next.column < margin) || next.atDocumentMark || next.startsWith '#' then
      return (word, broken, next)
    let (more, brokenAfter, last) ← readPlain flow margin fuel next
    if more.isEmpty then return (word, broken, last)
    return (word ++ foldWhite white ++ more, brokenAfter, last)

def hexNumber? (digits : List Char) : Option Nat :=
  digits.foldlM (fun value digit =>
    let code := digit.toNat
    if isDigit digit then some (16 * value + (code - 0x30))
    else if 0x61 ≤ code && code ≤ 0x66 then some (16 * value + (code - 0x61 + 10))
    else if 0x41 ≤ code && code ≤ 0x46 then some (16 * value + (code - 0x41 + 10))
    else none) 0

def codeEscape (count : Nat) (text : List Char) : Option (Char × List Char) := do
  guard (count ≤ text.length)
  let code ← hexNumber? (text.take count)
  guard (code < 0xD800 || (0xE000 ≤ code && code < 0x110000))
  return (Char.ofNat code, text.drop count)

def doubleEscape : List Char → Option (Char × List Char)
  | [] => none
  | 'x' :: rest => codeEscape 2 rest
  | 'u' :: rest => codeEscape 4 rest
  | 'U' :: rest => codeEscape 8 rest
  | character :: rest =>
    let meant := [('0', '\x00'), ('a', '\x07'), ('b', '\x08'), ('t', '\t'), ('\t', '\t'), ('n', '\n'),
      ('v', '\x0b'), ('f', '\x0c'), ('r', '\r'), ('e', '\x1b'), (' ', ' '), ('\x22', '\x22'),
      ('/', '/'), ('\\', '\\'), ('N', Char.ofNat 0x85), ('_', Char.ofNat 0xA0),
      ('L', Char.ofNat 0x2028), ('P', Char.ofNat 0x2029)]
    (meant.lookup character).map fun character => (character, rest)

def quoteMark (single : Bool) : Char := if single then '\x27' else '\x22'

/-- The characters up to white space, to the closing quote or to the end of the text, whether an escaped
break ends them, and the text after them. -/
def quotedWord? (single : Bool) : Nat → List Char → Option (List Char × Bool × List Char)
  | 0, _ => none
  | _ + 1, [] => some ([], false, [])
  | fuel + 1, character :: rest =>
    let with? := fun (meant : Char) (rest : List Char) =>
      (quotedWord? single fuel rest).map fun (more, escaped, rest) => (meant :: more, escaped, rest)
    if isWhite character then some ([], false, character :: rest)
    else if single && character == '\x27' && rest.head? == some '\x27' then with? '\x27' (rest.drop 1)
    else if character == quoteMark single then some ([], false, character :: rest)
    else if !single && character == '\\' then
      if rest.head?.any isBreak then some ([], true, rest.drop 1)
      else do
        let (meant, rest) ← doubleEscape rest
        with? meant rest
    else with? character rest

/-- A quoted scalar from after its opening quote: its text, and the place after the closing one. -/
def readQuoted (single : Bool) : Nat → Cursor → Option (List Char × Cursor)
  | 0, _ => none
  | fuel + 1, cursor => do
    guard (!cursor.atDocumentMark && !cursor.rest.isEmpty)
    let (word, escaped, after) ← quotedWord? single (cursor.rest.length + 1) cursor.rest
    let ended := cursor.upTo after
    if ended.startsWith (quoteMark single) then return (word, ended.step)
    let white := ended.rest.takeWhile isWhite
    let (more, last) ← readQuoted single fuel (ended.skip white.length)
    return (word ++ (if escaped then white.filter isBreak else foldWhite white) ++ more, last)

inductive Chomping where
  | strip
  | clip
  | keep
  deriving DecidableEq

def chomping? : Char → Option Chomping
  | '-' => some .strip
  | '+' => some .keep
  | _ => none

def indentation? (character : Char) : Option Nat :=
  if isDigit character && character != '0' then some (digitValue character) else none

/-- The indicators after the one that opens a block, each at most once and in any order. -/
def blockHeader (text : List Char) : Chomping × Option Nat × List Char :=
  let chomping := text.head?.bind chomping?
  let afterChomping := if chomping.isSome then text.drop 1 else text
  let increment := afterChomping.head?.bind indentation?
  let afterIncrement := if increment.isSome then afterChomping.drop 1 else afterChomping
  match chomping with
  | some chomping => (chomping, increment, afterIncrement)
  | none =>
    match if increment.isSome then afterIncrement.head?.bind chomping? else none with
    | some chomping => (chomping, increment, afterIncrement.drop 1)
    | none => (.clip, increment, afterIncrement)

/-- The lines without text, and the indentation of the line after them. The indentation ends at `indent`,
if it is known; otherwise `deepest` is the deepest one so far. -/
def readBlank (indent : Option Nat) : Nat → Nat → Cursor → Option (List Char × Nat × Cursor)
  | 0, _, _ => none
  | fuel + 1, deepest, cursor => do
    let spaces := (cursor.rest.takeWhile (· == ' ')).length
    let next := cursor.skip (match indent with
      | some indent => min spaces (indent - cursor.column)
      | none => spaces)
    let deepest := max deepest next.column
    guard (!(next.startsWith '\t' && indent.all (next.column < ·)))
    match next.rest with
    | character :: _ =>
      if isBreak character then do
        let (breaks, deepest, last) ← readBlank indent fuel deepest next.step
        return (character :: breaks, deepest, last)
      else return ([], deepest, next)
    | [] => return ([], deepest, next)

/-- The lines of a block at `indent`. `pending` is the break before the next line and `breaks` are the lines
without text after it; `spaced` tells whether the line before begins with a gap. -/
def readLines (literal : Bool) (chomping : Chomping) (indent : Nat) :
    Nat → List Char → List Char → Bool → Cursor → Option (List Char × Cursor)
  | 0, _, _, _, _ => none
  | fuel + 1, pending, breaks, spaced, cursor =>
    if cursor.column = indent && !cursor.rest.isEmpty then do
      let gapped := cursor.rest.head?.any isGap
      let folds := !literal && pending.head? == some '\n' && !spaced && !gapped
      let joint := if folds then (if breaks.isEmpty then [' '] else []) else pending
      let line := cursor.rest.takeWhile (!isBreak ·)
      let ended := cursor.skip line.length
      let (more, _, next) ← readBlank (some indent) (ended.rest.length + 1) 0 ended.step
      let (text, last) ←
        readLines literal chomping indent fuel (ended.rest.take 1) more gapped next
      return (joint ++ breaks ++ line ++ text, last)
    else
      match chomping with
      | .strip => some ([], cursor)
      | .clip => some (pending, cursor)
      | .keep => some (pending ++ breaks, cursor)

/-- A block from after its opening indicator. Its lines begin at `margin` or right of it. -/
def readBlock (literal : Bool) (margin : Nat) (cursor : Cursor) : Option (List Char × Cursor) := do
  let (chomping, increment, after) := blockHeader cursor.rest
  let start ← (cursor.upTo after).skipLineEnd?
  let fuel := start.rest.length + 2
  let known := increment.map fun increment => margin - 1 + increment
  let (breaks, deepest, next) ← readBlank known fuel 0 start
  let indent := known.getD (max deepest (max margin 1))
  readLines literal chomping indent fuel [] breaks false next

end TypeBridge.Yaml
