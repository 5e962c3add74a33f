import TypeBridge.Proofs.Outcome
import TypeBridge.Proofs.Sql.Lexer
import TypeBridge.Proofs.Text.Numeral
import TypeBridge.Sql.Name

/-!
Quoting is undone by the reader. A quoted name is read as one name with its own content, and a literal as
one literal, whatever characters are in them.
-/
namespace TypeBridge.Sql

theorem scan_continues {mode : Mode} {state : State} {character : Char} {rest : List Char}
    (same : state.continues mode character = true) :
    scan mode state (character :: rest) = scan mode (state.advance mode character) rest := by
  rw [scan, if_pos same]

theorem scan_starts {mode : Mode} {state : State} {character : Char} {rest : List Char}
    (apart : ¬state.continues mode character = true) :
    scan mode state (character :: rest) =
      (state.ending?.getD [] ++ (start mode character).1 ++
        (scan mode (start mode character).2 rest).1, (scan mode (start mode character).2 rest).2) := by
  rw [scan, if_neg apart]

theorem checkName_error {name : String} {cause : Error} (h : checkName name = .error cause) :
    ∃ fault, cause = .invalidValue fault := by
  unfold checkName at h
  split at h
  · cases h
    exact ⟨_, rfl⟩
  split at h
  · cases h
    exact ⟨_, rfl⟩
  split at h
  · cases h
    exact ⟨_, rfl⟩
  · cases h

/-- What names are: texts of one to 128 bytes without a NUL. -/
def IsName (name : String) : Prop :=
  1 ≤ name.utf8ByteSize ∧ name.utf8ByteSize ≤ 128 ∧ '\x00' ∉ name.toList

instance (name : String) : Decidable (IsName name) :=
  inferInstanceAs (Decidable (1 ≤ name.utf8ByteSize ∧ name.utf8ByteSize ≤ 128 ∧ '\x00' ∉ name.toList))

theorem checkName_eq_ok {name : String} : checkName name = .ok () ↔ IsName name := by
  have absent : name.isEmpty = true ↔ name.utf8ByteSize = 0 := beq_iff_eq
  unfold checkName
  split
  next empty =>
    have size := absent.mp empty
    exact ⟨nofun, fun named => absurd named.1 (by omega)⟩
  next present =>
    split
    next nul => exact ⟨nofun, fun named => absurd (List.contains_iff_mem.mp nul) named.2.2⟩
    next plain =>
      split
      next long =>
        have bound : maxNameBytes = 128 := rfl
        exact ⟨nofun, fun named => absurd named.2.1 (by omega)⟩
      next short =>
        have bound : maxNameBytes = 128 := rfl
        rw [absent] at present
        exact ⟨fun _ => ⟨by omega, by omega, fun nul => plain (List.contains_iff_mem.mpr nul)⟩,
          fun _ => rfl⟩

theorem checkName_of_not_isName {name : String} (h : ¬IsName name) :
    ∃ fault, checkName name = .error (.invalidValue fault) := by
  cases checked : checkName name with
  | ok => exact absurd (checkName_eq_ok.mp checked) h
  | error cause =>
    obtain ⟨fault, rfl⟩ := checkName_error checked
    exact ⟨fault, rfl⟩

theorem quoteName_eq_ok {mode : Mode} {name quoted : String} : quoteName mode name = .ok quoted ↔
    IsName name ∧ quoted = enclosed (nameQuote mode) name.toList := by
  rw [quoteName, bind_eq_ok, ← checkName_eq_ok]
  constructor
  · rintro ⟨_, named, made⟩
    cases made
    exact ⟨named, rfl⟩
  · rintro ⟨named, rfl⟩
    exact ⟨(), named, rfl⟩

theorem nameQuote_eq (mode : Mode) : nameQuote mode = nameDelimiter mode := by cases mode <;> rfl

theorem scan_nameDelimiter (mode : Mode) (rest : List Char) :
    scan mode .between (nameDelimiter mode :: rest) = scan mode (.inName []) rest := by
  cases mode <;> rfl

theorem doubled_cons (special character : Char) (rest : List Char) :
    doubled special (character :: rest) =
      (if character = special then [character, character] else [character]) ++ doubled special rest :=
  List.flatMap_cons

theorem scan_inName (mode : Mode) (content text : List Char) :
    scan mode (.inName content) (doubled (nameDelimiter mode) text ++ [nameDelimiter mode]) =
      ([], .atNameQuote (content ++ text)) := by
  induction text generalizing content with
  | nil => simp [doubled, scan, State.continues, State.advance]
  | cons character rest ih =>
    have next := ih (content ++ [character])
    rw [List.append_assoc, List.singleton_append] at next
    rw [doubled_cons, List.append_assoc]
    by_cases quote : character = nameDelimiter mode
    · -- The first quote may end the name, the second one takes that back.
      have again : State.continues mode (.atNameQuote content) character = true := beq_iff_eq.mpr quote
      rw [if_pos quote, List.cons_append, List.cons_append, scan_continues rfl]
      rw [State.advance, if_pos quote, scan_continues again, State.advance]
      exact next
    · rw [if_neg quote, List.cons_append, scan_continues rfl, State.advance, if_neg quote]
      exact next

theorem scan_enclosed (mode : Mode) (name : String) :
    scan mode .between (enclosed (nameQuote mode) name.toList).toList =
      ([], .atNameQuote name.toList) := by
  rw [enclosed, String.toList_ofList, nameQuote_eq, scan_nameDelimiter, scan_inName, List.nil_append]

theorem ending?_atNameQuote (name : String) :
    State.ending? (.atNameQuote name.toList) = some [.name name] := by
  rw [State.ending?, String.ofList_toList]

theorem lexes_enclosed (mode : Mode) (name : String) :
    Lexes mode (enclosed (nameQuote mode) name.toList).toList [.name name] :=
  ⟨[], .atNameQuote name.toList, [.name name], scan_enclosed mode name, ending?_atNameQuote name, rfl⟩

theorem lexes_quoteName {mode : Mode} {name quoted : String} (h : quoteName mode name = .ok quoted) :
    Lexes mode quoted.toList [.name name] := by
  obtain ⟨-, rfl⟩ := quoteName_eq_ok.mp h
  exact lexes_enclosed mode name

theorem scan_literalQuote (mode : Mode) (rest : List Char) :
    scan mode .between ('\x27' :: rest) = scan mode (.inLiteral []) rest := by
  cases mode <;> rfl

theorem backslashed_cons (mode : Mode) (character : Char) (rest : List Char) :
    backslashed mode (character :: rest) = backslashed mode [character] ++ backslashed mode rest := by
  cases mode with
  | mysql => simp [backslashed, doubled]
  | oracle => rfl

theorem doubled_append (special : Char) (first second : List Char) :
    doubled special (first ++ second) = doubled special first ++ doubled special second :=
  List.flatMap_append

/-- What the two passes make of one character is read as that character: neither pass writes one that the other
doubles. -/
theorem scan_character (mode : Mode) (character : Char) (content rest : List Char) :
    scan mode (.inLiteral content) (doubled '\x27' (backslashed mode [character]) ++ rest) =
      scan mode (.inLiteral (content ++ [character])) rest := by
  by_cases quote : character = '\x27'
  · subst quote
    cases mode <;> rfl
  by_cases escape : character = '\\'
  · subst escape
    cases mode <;> rfl
  · have plain : doubled '\x27' (backslashed mode [character]) = [character] := by
      cases mode <;> simp [backslashed, doubled, quote, escape]
    rw [plain, List.singleton_append, scan_continues rfl, State.advance, if_neg quote]
    simp [escape]

theorem scan_inLiteral (mode : Mode) (content text : List Char) :
    scan mode (.inLiteral content) (doubled '\x27' (backslashed mode text) ++ ['\x27']) =
      ([], .atLiteralQuote (content ++ text)) := by
  induction text generalizing content with
  | nil => cases mode <;> simp [backslashed, doubled, scan, State.continues, State.advance]
  | cons character rest ih =>
    rw [backslashed_cons, doubled_append, List.append_assoc, scan_character, ih, List.append_assoc,
      List.singleton_append]

theorem scan_literal (mode : Mode) (text : String) :
    scan mode .between (literal mode text).toList = ([], .atLiteralQuote text.toList) := by
  rw [literal, enclosed, String.toList_ofList, scan_literalQuote, scan_inLiteral, List.nil_append]

theorem ending?_atLiteralQuote (text : String) :
    State.ending? (.atLiteralQuote text.toList) = some [.literal text] := by
  rw [State.ending?, String.ofList_toList]

theorem lexes_literal (mode : Mode) (text : String) :
    Lexes mode (literal mode text).toList [.literal text] :=
  ⟨[], .atLiteralQuote text.toList, [.literal text], scan_literal mode text, ending?_atLiteralQuote text,
    rfl⟩

theorem start_word {mode : Mode} {character : Char} (word : isWordCharacter character = true) :
    start mode character = ([], .inWord [character]) := by
  have blank : Text.isBlank character = false := by
    simp only [isWordCharacter, Bool.and_eq_true, Bool.not_eq_true'] at word
    exact word.2
  have differs : ∀ other, isWordCharacter other = false → character ≠ other := by
    rintro other notWord rfl
    rw [word] at notWord
    cases notWord
  have quote : character ≠ nameDelimiter mode := differs _ (by cases mode <;> decide)
  have operator : isOperatorCharacter character = false := by
    have less := differs '<' (by decide)
    have greater := differs '>' (by decide)
    have equal := differs '=' (by decide)
    have mark := differs '!' (by decide)
    simp [isOperatorCharacter, less, greater, equal, mark]
  rw [start, blank, if_neg Bool.false_ne_true, if_neg quote, if_neg (differs _ (by decide)), operator,
    if_neg Bool.false_ne_true, if_pos word]

theorem scan_inWord {mode : Mode} {text : List Char} (content : List Char)
    (word : ∀ character ∈ text, isWordCharacter character = true) :
    scan mode (.inWord content) text = ([], .inWord (content ++ text)) := by
  induction text generalizing content with
  | nil => rw [scan, List.append_nil]
  | cons character rest ih =>
    have same : State.continues mode (.inWord content) character = true :=
      word character (List.mem_cons_self ..)
    rw [scan_continues same, State.advance,
      ih _ fun other member => word other (List.mem_cons_of_mem _ member), List.append_assoc,
      List.singleton_append]

theorem lexes_word {mode : Mode} {text : List Char} (present : text ≠ [])
    (word : ∀ character ∈ text, isWordCharacter character = true) :
    Lexes mode text [.word (String.ofList text)] := by
  obtain ⟨first, rest, rfl⟩ := List.exists_cons_of_ne_nil present
  refine ⟨[], .inWord (first :: rest), [.word (String.ofList (first :: rest))], ?_, rfl, rfl⟩
  have started := @start_word mode first (word first (List.mem_cons_self ..))
  have read := @scan_inWord mode rest [first] fun other member => word other (List.mem_cons_of_mem _ member)
  have begins : ¬State.between.continues mode first = true := Bool.false_ne_true
  rw [scan_starts begins, started, read]
  rfl

theorem isWordCharacter_of_isDigit {character : Char} (digit : Text.isDigit character = true) :
    isWordCharacter character = true := by
  have alphanumeric : character.isAlphanum = true := by
    rw [Text.isDigit_eq] at digit
    rw [Char.isAlphanum, digit, Bool.or_true]
  rw [isWordCharacter, alphanumeric, Text.isBlank_of_isDigit digit]
  rfl

theorem lexes_numeral (mode : Mode) (value : Nat) :
    Lexes mode (Text.numeral value) [.word (Text.numberText value)] :=
  lexes_word (Text.numeral_ne_nil value) fun _ member =>
    isWordCharacter_of_isDigit (Text.isDigit_of_mem_numeral member)

end TypeBridge.Sql
