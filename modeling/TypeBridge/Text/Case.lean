import TypeBridge.Text.CaseTable

/-!
Full case mapping. Inside ASCII a letter changes alone; outside, the tables of `CaseTable` decide, and
a letter may become several. A capital sigma that ends a word has a lower case of its own.
-/
namespace TypeBridge.Text

def inSpans (spans : List (Nat × Nat)) (code : Nat) : Bool :=
  spans.any fun (first, last) => first ≤ code && code ≤ last

def CaseRun.covers (run : CaseRun) (code : Nat) : Bool :=
  run.first ≤ code && code ≤ run.last && (code - run.first) % run.stride == 0

/-- The mapping of one character by expansions, then runs; a character in neither maps to itself. -/
def mapCase (expansions : List (Nat × List Nat)) (runs : List CaseRun) (character : Char) :
    List Char :=
  let code := character.toNat
  match expansions.lookup code with
  | some codes => codes.map Char.ofNat
  | none =>
    match runs.find? (·.covers code) with
    | some run => [Char.ofNat ((code : Int) + run.shift).toNat]
    | none => [character]

def isAscii (character : Char) : Bool := character.toNat < 128

def lowerChar (character : Char) : List Char :=
  if isAscii character then [character.toLower] else mapCase lowerExpansions lowerRuns character

def upperChar (character : Char) : List Char :=
  if isAscii character then [character.toUpper] else mapCase upperExpansions upperRuns character

def isCased (character : Char) : Bool :=
  if isAscii character then character.isAlpha else inSpans casedSpans character.toNat

/-- Characters that do not end the search for a cased neighbour of a sigma. -/
def isCaseIgnorable (character : Char) : Bool :=
  if isAscii character then ['\x27', '.', ':', '^', '\x60'].contains character
  else inSpans caseIgnorableSpans character.toNat

def reachesCased (text : List Char) : Bool :=
  match text.dropWhile isCaseIgnorable with
  | [] => false
  | character :: _ => isCased character

/-- `before` holds the characters already mapped, nearest first. -/
def lowerFrom (before : List Char) : List Char → List Char
  | [] => []
  | 'Σ' :: after =>
    (if reachesCased before && !reachesCased after then 'ς' else 'σ') :: lowerFrom ('Σ' :: before) after
  | character :: after => lowerChar character ++ lowerFrom (character :: before) after

def lowercase (text : List Char) : List Char := lowerFrom [] text

def uppercase (text : List Char) : List Char := text.flatMap upperChar

def lowered (text : String) : String := String.ofList (lowercase text.toList)

def uppered (text : String) : String := String.ofList (uppercase text.toList)

end TypeBridge.Text
