import TypeBridge.Error
import TypeBridge.Mode
import TypeBridge.Proofs.Outcome
import TypeBridge.Text.Blank

/-!
How a backend takes a statement apart. Names stand in the quotes of the mode and literals in single
quotes; a quote is written twice inside of them, and in one mode a backslash escapes the next character of
a literal. Outside of quotes there are words, operators and single characters. Marks that start a
comment or end a statement are such characters, so text that escapes its quotes shows among the tokens.

Where one piece of a statement ends at a boundary, the next is read as if it stood alone; so the tokens
of a statement are those of its pieces.
-/
namespace TypeBridge.Sql

inductive Token where
  | name (content : String)
  | literal (content : String)
  | word (text : String)
  | operator (text : String)
  | symbol (character : Char)
  deriving DecidableEq

/-- Where the reader stands, with what it has read of the current token. -/
inductive State where
  | between
  | inWord (text : List Char)
  | inOperator (text : List Char)
  | inName (content : List Char)
  /-- After a quote in a name, which ends it unless another one follows. -/
  | atNameQuote (content : List Char)
  | inLiteral (content : List Char)
  | atEscape (content : List Char)
  | atLiteralQuote (content : List Char)
  deriving DecidableEq

def isWordCharacter (character : Char) : Bool :=
  (character.isAlphanum || character == '_' || character == '$' || 0x80 ≤ character.toNat) &&
    !Text.isBlank character

def isOperatorCharacter (character : Char) : Bool := ['<', '>', '=', '!'].contains character

def nameDelimiter : Mode → Char
  | .mysql => '\x60'
  | .oracle => '\x22'

def escapesWithBackslash : Mode → Bool
  | .mysql => true
  | .oracle => false

def escaped (character : Char) : List Char :=
  match character with
  | '0' => ['\x00']
  | 'b' => ['\x08']
  | 'n' => ['\n']
  | 'r' => ['\r']
  | 't' => ['\t']
  | 'Z' => ['\x1a']
  | '%' => ['\\', '%']
  | '_' => ['\\', '_']
  | character => [character]

def start (mode : Mode) (character : Char) : List Token × State :=
  if Text.isBlank character then ([], .between)
  else if character = nameDelimiter mode then ([], .inName [])
  else if character = '\x27' then ([], .inLiteral [])
  else if isOperatorCharacter character then ([], .inOperator [character])
  else if isWordCharacter character then ([], .inWord [character])
  else ([.symbol character], .between)

/-- The token that ends where the reader stands; none within quotes. -/
def State.ending? : State → Option (List Token)
  | between => some []
  | inWord text => some [.word (String.ofList text)]
  | inOperator text => some [.operator (String.ofList text)]
  | atNameQuote content => some [.name (String.ofList content)]
  | atLiteralQuote content => some [.literal (String.ofList content)]
  | inName _ | inLiteral _ | atEscape _ => none

def State.continues (mode : Mode) (state : State) (character : Char) : Bool :=
  match state with
  | between => false
  | inWord _ => isWordCharacter character
  | inOperator _ => isOperatorCharacter character
  | atNameQuote _ => character == nameDelimiter mode
  | atLiteralQuote _ => character == '\x27'
  | inName _ | inLiteral _ | atEscape _ => true

def State.advance (mode : Mode) (state : State) (character : Char) : State :=
  match state with
  | between => between
  | inWord text => inWord (text ++ [character])
  | inOperator text => inOperator (text ++ [character])
  | inName content =>
    if character = nameDelimiter mode then atNameQuote content else inName (content ++ [character])
  | atNameQuote content => inName (content ++ [character])
  | inLiteral content =>
    if character = '\x27' then atLiteralQuote content
    else if escapesWithBackslash mode && character == '\\' then atEscape content
    else inLiteral (content ++ [character])
  | atEscape content => inLiteral (content ++ escaped character)
  | atLiteralQuote content => inLiteral (content ++ [character])

/-- The tokens that end within a text, and where the reader stands after it. -/
def scan (mode : Mode) (state : State) : List Char → List Token × State
  | [] => ([], state)
  | character :: rest =>
    if state.continues mode character then scan mode (state.advance mode character) rest
    else
      let (started, next) := start mode character
      let (more, last) := scan mode next rest
      (state.ending?.getD [] ++ started ++ more, last)

def lex (mode : Mode) (sql : String) : Option (List Token) :=
  let (read, last) := scan mode .between sql.toList
  last.ending?.map (read ++ ·)

example : lex .mysql "SELECT `a``b` <= 'it''s\\n'" =
    some [.word "SELECT", .name "a`b", .operator "<=", .literal "it's\n"] := by decide

theorem scan_append (mode : Mode) (state : State) (first second : List Char) :
    scan mode state (first ++ second) =
      ((scan mode state first).1 ++ (scan mode (scan mode state first).2 second).1,
        (scan mode (scan mode state first).2 second).2) := by
  induction first generalizing state with
  | nil => rfl
  | cons character rest ih =>
    rw [List.cons_append, scan, scan]
    split
    · exact ih _
    · simp only [ih, List.append_assoc]

/-- A character that ends any token it does not stand in. -/
def isBoundary (mode : Mode) (character : Char) : Bool :=
  !(isWordCharacter character || isOperatorCharacter character || character == nameDelimiter mode ||
    character == '\x27')

def beginsApart (mode : Mode) (text : List Char) : Bool := text.head?.any (isBoundary mode)

/-- At a boundary the token in hand ends, and the rest is read by itself. -/
theorem scan_boundary {mode : Mode} {state : State} {ended : List Token} {text : List Char}
    (complete : state.ending? = some ended) (apart : beginsApart mode text = true) :
    scan mode state text = (ended ++ (scan mode .between text).1, (scan mode .between text).2) := by
  cases text with
  | nil => cases apart
  | cons character rest =>
    simp only [beginsApart, List.head?_cons, Option.any_some, isBoundary, Bool.not_eq_true',
      Bool.or_eq_false_iff] at apart
    obtain ⟨⟨⟨word, operator⟩, name⟩, literal⟩ := apart
    have stops : state.continues mode character = false := by
      cases state with
      | between => rfl
      | inWord => exact word
      | inOperator => exact operator
      | atNameQuote => exact name
      | atLiteralQuote => exact literal
      | inName | inLiteral | atEscape => cases complete
    have stays : State.between.continues mode character = false := rfl
    rw [scan, scan, stops, stays, complete]
    simp [State.ending?]

/-- The piece is read as these tokens and ends between tokens, so that anything may follow. -/
def LexesApart (mode : Mode) (text : List Char) (tokens : List Token) : Prop :=
  scan mode .between text = (tokens, .between)

instance (mode : Mode) (text : List Char) (tokens : List Token) :
    Decidable (LexesApart mode text tokens) :=
  inferInstanceAs (Decidable (scan mode .between text = (tokens, .between)))

/-- A piece that can stand between any two others: it begins at a boundary and ends between tokens. -/
structure Separates (mode : Mode) (text : List Char) (tokens : List Token) : Prop where
  begins : beginsApart mode text = true
  lexed : LexesApart mode text tokens

instance (mode : Mode) (text : List Char) (tokens : List Token) :
    Decidable (Separates mode text tokens) :=
  decidable_of_iff (beginsApart mode text = true ∧ LexesApart mode text tokens)
    ⟨fun parts => ⟨parts.1, parts.2⟩, fun separates => ⟨separates.begins, separates.lexed⟩⟩

/-- The piece is read as these tokens when it ends, or a boundary follows. -/
def Lexes (mode : Mode) (text : List Char) (tokens : List Token) : Prop :=
  ∃ read last ended, scan mode .between text = (read, last) ∧ last.ending? = some ended ∧
    tokens = read ++ ended

variable {mode : Mode} {first second : List Char} {left right tokens : List Token}

theorem lex_eq_some {sql : String} : lex mode sql = some tokens ↔ Lexes mode sql.toList tokens := by
  unfold lex Lexes
  cases scan mode .between sql.toList with
  | mk read last =>
    simp only [Option.map_eq_some_iff, Prod.mk.injEq]
    constructor
    · rintro ⟨ended, complete, same⟩
      exact ⟨read, last, ended, ⟨rfl, rfl⟩, complete, same.symm⟩
    · rintro ⟨_, _, ended, ⟨rfl, rfl⟩, complete, same⟩
      exact ⟨ended, complete, same.symm⟩

theorem LexesApart.lexes (apart : LexesApart mode first left) : Lexes mode first left :=
  ⟨left, .between, [], apart, rfl, (List.append_nil left).symm⟩

theorem LexesApart.append (apart : LexesApart mode first left) (next : LexesApart mode second right) :
    LexesApart mode (first ++ second) (left ++ right) := by
  unfold LexesApart at *
  rw [scan_append, apart, next]

theorem LexesApart.append_lexes (apart : LexesApart mode first left) (next : Lexes mode second right) :
    Lexes mode (first ++ second) (left ++ right) := by
  obtain ⟨read, last, ended, scanned, complete, rfl⟩ := next
  refine ⟨left ++ read, last, ended, ?_, complete, (List.append_assoc ..).symm⟩
  rw [scan_append, apart, scanned]

theorem Lexes.append_separates (lexes : Lexes mode first left) (next : Separates mode second right) :
    LexesApart mode (first ++ second) (left ++ right) := by
  obtain ⟨read, last, ended, scanned, complete, rfl⟩ := lexes
  have after := next.lexed
  unfold LexesApart at *
  rw [scan_append, scanned, scan_boundary complete next.begins, after, List.append_assoc]

theorem Separates.append (separates : Separates mode first left) (next : LexesApart mode second right) :
    Separates mode (first ++ second) (left ++ right) := by
  refine ⟨?_, separates.lexed.append next⟩
  cases first with
  | nil => cases separates.begins
  | cons character rest => exact separates.begins

theorem separates_blank (mode : Mode) : Separates mode " ".toList [] := by
  cases mode <;> decide

theorem separates_comma (mode : Mode) : Separates mode ", ".toList [.symbol ','] := by
  cases mode <;> decide

theorem separates_closing (mode : Mode) : Separates mode [')'] [.symbol ')'] := by
  cases mode <;> decide

theorem intercalate_cons {α : Type} (separator first : List α) (rest : List (List α)) :
    separator.intercalate (first :: rest) = first ++ rest.flatMap (separator ++ ·) := by
  induction rest generalizing first with
  | nil => simp
  | cons second rest ih => simp [List.intercalate_cons_cons, ih]

section

variable {separator closer : List Char} {separatorTokens closerTokens : List Token}
  {pieces : List (List Char × List Token)}

theorem separates_pieces (separates : Separates mode separator separatorTokens)
    (closes : Separates mode closer closerTokens)
    (lexed : ∀ piece ∈ pieces, Lexes mode piece.1 piece.2) :
    Separates mode (pieces.flatMap (fun piece => separator ++ piece.1) ++ closer)
      (pieces.flatMap (fun piece => separatorTokens ++ piece.2) ++ closerTokens) := by
  induction pieces with
  | nil => exact closes
  | cons piece pieces ih =>
    have others := ih fun other member => lexed other (List.mem_cons_of_mem _ member)
    have first := (lexed piece (List.mem_cons_self ..)).append_separates others
    simpa [List.flatMap_cons, List.append_assoc] using separates.append first

theorem lexesApart_joined (separates : Separates mode separator separatorTokens)
    (closes : Separates mode closer closerTokens)
    (lexed : ∀ piece ∈ pieces, Lexes mode piece.1 piece.2) :
    LexesApart mode (separator.intercalate (pieces.map (·.1)) ++ closer)
      (separatorTokens.intercalate (pieces.map (·.2)) ++ closerTokens) := by
  cases pieces with
  | nil => exact closes.lexed
  | cons piece pieces =>
    have others := separates_pieces separates closes
      fun other member => lexed other (List.mem_cons_of_mem _ member)
    have joined := (lexed piece (List.mem_cons_self ..)).append_separates others
    rw [List.map_cons, List.map_cons, intercalate_cons, intercalate_cons]
    simpa [List.flatMap_map, List.append_assoc] using joined

theorem lexes_joined (separates : Separates mode separator separatorTokens)
    (lexed : ∀ piece ∈ pieces, Lexes mode piece.1 piece.2) :
    Lexes mode (separator.intercalate (pieces.map (·.1)))
      (separatorTokens.intercalate (pieces.map (·.2))) := by
  induction pieces with
  | nil => exact LexesApart.lexes rfl
  | cons piece pieces ih =>
    have first := lexed piece (List.mem_cons_self ..)
    have others := ih fun other member => lexed other (List.mem_cons_of_mem _ member)
    cases pieces with
    | nil => simpa using first
    | cons next pieces =>
      simp only [List.map_cons, List.intercalate_cons_cons] at others ⊢
      exact (first.append_separates separates).append_lexes others

end

theorem lexes_listed {α : Type} {write : α → Except Error String} {read : α → Except Error (List Token)}
    {items : List α} {texts : List String}
    (each : ∀ item text, write item = .ok text →
      ∃ tokens, read item = .ok tokens ∧ Lexes mode text.toList tokens)
    (h : items.mapM write = .ok texts) :
    ∃ tokens, items.mapM read = .ok tokens ∧
      LexesApart mode ((", ".intercalate texts).toList ++ [')'])
        ([.symbol ','].intercalate tokens ++ [.symbol ')']) := by
  obtain ⟨pairs, rfl, listed, lexed⟩ := mapM_pairs (fun item _ => each item) h
  refine ⟨_, listed, ?_⟩
  let pieces := pairs.map fun pair => (pair.1.toList, pair.2)
  have lexedPieces : ∀ piece ∈ pieces, Lexes mode piece.1 piece.2 := by
    intro piece member
    obtain ⟨pair, listed, rfl⟩ := List.mem_map.mp member
    exact lexed pair listed
  have joined := lexesApart_joined (separates_comma mode) (separates_closing mode) lexedPieces
  simpa [pieces, List.map_map, Function.comp_def] using joined

end TypeBridge.Sql
