import TypeBridge.Proofs.Sql.Quoting

/-!
Quoting in any context. A quoted name or a literal at the front of a text is read as one token, and what
follows is left as it is, unless it begins with the quote that would make the token longer.
-/
namespace TypeBridge.Sql

def State.token? (state : State) : Option Token := state.ending?.bind List.head?

def nextToken? (mode : Mode) (state : State) : List Char → Option (Token × List Char)
  | [] => state.token?.map (·, [])
  | character :: rest =>
    if state.continues mode character then nextToken? mode (state.advance mode character) rest
    else
      match state.token?, start mode character with
      | some token, _ => some (token, character :: rest)
      | none, (token :: _, _) => some (token, rest)
      | none, ([], next) => nextToken? mode next rest

def firstToken? (mode : Mode) (sql : String) : Option (Token × String) :=
  (nextToken? mode .between sql.toList).map fun (token, rest) => (token, String.ofList rest)

example : firstToken? .oracle " \"A\"\"B\"C" = some (.name "A\"B", "C") := by decide

variable {mode : Mode} {state last : State} {token : Token} {first text rest : List Char}

theorem ending?_eq_some (h : state.token? = some token) : state.ending? = some [token] := by
  cases state <;> cases h <;> rfl

theorem ending?_getD_eq_nil (h : state.token? = none) : state.ending?.getD [] = [] := by
  cases state <;> first | rfl | cases h

theorem start_alone {character : Char} {others : List Token} {next : State}
    (h : start mode character = (token :: others, next)) : others = [] ∧ next = .between := by
  unfold start at h
  split_ifs at h <;> cases h
  exact ⟨rfl, rfl⟩

/-- The tokens of a text from where the reader stands, unless it ends within quotes. -/
def lexFrom (mode : Mode) (state : State) (text : List Char) : Option (List Token) :=
  (scan mode state text).2.ending?.map ((scan mode state text).1 ++ ·)

theorem lexFrom_continues {character : Char} (same : state.continues mode character = true) :
    lexFrom mode state (character :: rest) = lexFrom mode (state.advance mode character) rest := by
  rw [lexFrom, scan_continues same]
  rfl

theorem lexFrom_starts {character : Char} (apart : ¬state.continues mode character = true) :
    lexFrom mode state (character :: rest) = (lexFrom mode (start mode character).2 rest).map
      (state.ending?.getD [] ++ (start mode character).1 ++ ·) := by
  rw [lexFrom, scan_starts apart, lexFrom, Option.map_map]
  simp only [Function.comp_def, List.append_assoc]

/-- The tokens of a text are its next one and those of the text after it. -/
theorem lexFrom_of_nextToken? (h : nextToken? mode state text = some (token, rest)) :
    lexFrom mode state text = (lexFrom mode .between rest).map (token :: ·) := by
  induction text generalizing state with
  | nil =>
    obtain ⟨_, ends, same⟩ := Option.map_eq_some_iff.mp h
    cases same
    rw [lexFrom, scan, ending?_eq_some ends]
    rfl
  | cons character following ih =>
    rw [nextToken?] at h
    split at h
    next same => rw [lexFrom_continues same, ih h]
    next apart =>
      rw [lexFrom_starts apart]
      split at h
      next ends =>
        cases h
        have begins : ¬State.between.continues mode character = true := Bool.false_ne_true
        rw [lexFrom_starts begins, ending?_eq_some ends, Option.map_map]
        rfl
      next within started =>
        cases h
        obtain ⟨rfl, rfl⟩ := start_alone started
        rw [started, ending?_getD_eq_nil within]
        rfl
      next within started =>
        rw [started, ending?_getD_eq_nil within, ih h]
        exact Option.map_id'

/-- A piece that is no token before its end is the next token, if the text after it does not make it
longer. -/
theorem nextToken?_append (scanned : scan mode state first = ([], last))
    (ends : last.token? = some token)
    (apart : ∀ next ∈ rest.head?, last.continues mode next = false) :
    nextToken? mode state (first ++ rest) = some (token, rest) := by
  induction first generalizing state with
  | nil =>
    cases scanned
    cases rest with
    | nil => rw [List.append_nil, nextToken?, ends]; rfl
    | cons next following =>
      have other : last.continues mode next = false := apart next rfl
      rw [List.nil_append, nextToken?, if_neg (Bool.eq_false_iff.mp other), ends]
  | cons character following ih =>
    rw [List.cons_append, nextToken?]
    split
    next same =>
      rw [scan_continues same] at scanned
      exact ih scanned
    next other =>
      -- No token ends at the character and it is none itself, as none has been read before the end.
      rw [scan_starts other] at scanned
      obtain ⟨read, stands⟩ := Prod.mk.inj scanned
      obtain ⟨before, after⟩ := List.append_eq_nil_iff.mp read
      obtain ⟨ended, alone⟩ := List.append_eq_nil_iff.mp before
      split
      next found => rw [ending?_eq_some found] at ended; cases ended
      next started => rw [started] at alone; cases alone
      next started =>
        rw [started] at after stands
        exact ih (Prod.ext after stands)

/-- The text begins with a token, and the others are those of the text that is left. -/
structure ReadsFirst (mode : Mode) (sql : String) (token : Token) (rest : String) : Prop where
  first : firstToken? mode sql = some (token, rest)
  others : lex mode sql = (lex mode rest).map (token :: ·)

theorem readsFirst_append {piece rest : String} (scanned : scan mode .between piece.toList = ([], last))
    (ends : last.ending? = some [token])
    (apart : ∀ next ∈ rest.toList.head?, last.continues mode next = false) :
    ReadsFirst mode (piece ++ rest) token rest := by
  have found : last.token? = some token := by rw [State.token?, ends]; rfl
  have next := nextToken?_append scanned found apart
  rw [← String.toList_append] at next
  exact {
    first := by
      rw [firstToken?, next, Option.map_some]
      dsimp only
      rw [String.ofList_toList]
    others := lexFrom_of_nextToken? next }

theorem beq_of_head? {quote : Char} (apart : text.head? ≠ some quote) :
    ∀ next ∈ text.head?, (next == quote) = false := by
  intro next begins
  rw [beq_eq_false_iff_ne]
  rintro rfl
  exact apart begins

/-- A name is quoted just when it has one to 128 bytes and no NUL. Whatever follows the quoted name, if it
does not begin with the quote, the name is read back as one token and what follows is left to be read as if
it stood alone. So is a literal, whatever its text. -/
theorem quoting_undone (mode : Mode) :
    (∀ name, checkName name = .ok () ↔ IsName name) ∧
    (∀ name, IsName name → ∃ quoted, quoteName mode name = .ok quoted ∧
      ∀ rest : String, rest.toList.head? ≠ some (nameDelimiter mode) →
        ReadsFirst mode (quoted ++ rest) (.name name) rest) ∧
    (∀ name, ¬IsName name → ∃ fault, quoteName mode name = .error (.invalidValue fault)) ∧
    ∀ text rest : String, rest.toList.head? ≠ some '\x27' →
      ReadsFirst mode (literal mode text ++ rest) (.literal text) rest := by
  refine ⟨fun _ => checkName_eq_ok, fun name named => ?_, fun name other => ?_, fun text rest apart => ?_⟩
  · exact ⟨_, quoteName_eq_ok.mpr ⟨named, rfl⟩, fun rest apart =>
      readsFirst_append (scan_enclosed mode name) (ending?_atNameQuote name) (beq_of_head? apart)⟩
  · obtain ⟨fault, refused⟩ := checkName_of_not_isName other
    exact ⟨fault, by rw [quoteName, refused]; rfl⟩
  · exact readsFirst_append (scan_literal mode text) (ending?_atLiteralQuote text) (beq_of_head? apart)

/-- Names and literals that end with their quotes, in front of a word and of names. The empty text is no
name. -/
theorem quoting_undone_ownQuotes :
    (quoteName .mysql "a`" = .ok "`a```" ∧ ReadsFirst .mysql ("`a```" ++ "b") (.name "a`") "b") ∧
    (quoteName .oracle "a\"" = .ok "\"a\"\"\"" ∧
      ReadsFirst .oracle ("\"a\"\"\"" ++ "`b`") (.name "a\"") "`b`") ∧
    (∃ fault, quoteName .oracle "" = .error (.invalidValue fault)) ∧
    ReadsFirst .mysql ("'\\\\'''" ++ "`b`") (.literal "\\'") "`b`" ∧
    ReadsFirst .oracle ("'\\'''" ++ "\"b\"") (.literal "\\'") "\"b\"" := by
  obtain ⟨-, names, -, literals⟩ := quoting_undone .mysql
  obtain ⟨-, otherNames, others, otherLiterals⟩ := quoting_undone .oracle
  have quotes : quoteName .mysql "a`" = .ok "`a```" := rfl
  have otherQuotes : quoteName .oracle "a\"" = .ok "\"a\"\"\"" := rfl
  obtain ⟨_, quoted, reads⟩ := names "a`" ⟨by decide, by decide, by decide⟩
  obtain ⟨_, otherQuoted, otherReads⟩ := otherNames "a\"" ⟨by decide, by decide, by decide⟩
  cases quoted.symm.trans quotes
  cases otherQuoted.symm.trans otherQuotes
  refine ⟨⟨quotes, reads "b" (by decide)⟩, ⟨otherQuotes, otherReads "`b`" (by decide)⟩, ?_, ?_, ?_⟩
  · exact others "" fun named => absurd named.1 (by decide)
  · exact literals "\\'" "`b`" (by decide)
  · exact otherLiterals "\\'" "\"b\"" (by decide)

end TypeBridge.Sql
