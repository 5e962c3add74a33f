import TypeBridge.Proofs.Sql.Quoting
import TypeBridge.Sql.Dialect

/-!
The keys of an order, as the backend reads them. A key is a name, or a null test with the name in its
brackets, and a direction; commas stand between keys. Names come as tokens, so a comma, a bracket or a
direction in a name does not count, and a list of keys reads back as it was written.
-/
namespace TypeBridge.Sql

variable {mode : Mode}

namespace OrderKey

variable {key : OrderKey}

def subject (mode : Mode) (key : OrderKey) : String :=
  let column := enclosed (nameQuote mode) key.column.toList
  if key.nullTest then "ISNULL(" ++ column ++ ")" else column

def direction (key : OrderKey) : String := if key.ascending then "ASC" else "DESC"

def written (mode : Mode) (key : OrderKey) : String := key.subject mode ++ " " ++ key.direction

def subjectTokens (key : OrderKey) : List Token :=
  if key.nullTest then [.word "ISNULL", .symbol '(', .name key.column, .symbol ')']
  else [.name key.column]

def tokens (key : OrderKey) : List Token := key.subjectTokens ++ [.word key.direction]

theorem sql_eq_ok {text : String} :
    key.sql mode = .ok text ↔ IsName key.column ∧ text = key.written mode := by
  have direction : (if key.ascending then " ASC" else " DESC") = " " ++ key.direction := by
    unfold OrderKey.direction
    cases key.ascending <;> rfl
  rw [written, String.append_assoc, ← direction]
  unfold OrderKey.sql
  simp only [bind_eq_ok, quoteName_eq_ok]
  constructor
  · rintro ⟨_, ⟨named, rfl⟩, done⟩
    cases done
    exact ⟨named, rfl⟩
  · rintro ⟨named, rfl⟩
    exact ⟨_, ⟨named, rfl⟩, rfl⟩

theorem lexes_subject (mode : Mode) (key : OrderKey) :
    Lexes mode (key.subject mode).toList key.subjectTokens := by
  have name := lexes_enclosed mode key.column
  unfold subject subjectTokens
  split
  · have test : LexesApart mode "ISNULL(".toList [.word "ISNULL", .symbol '('] := by
      cases mode <;> decide
    rw [String.toList_append, String.toList_append]
    exact ((test.append_lexes name).append_separates (separates_closing mode)).lexes
  · exact name

theorem lexes_written (mode : Mode) (key : OrderKey) :
    Lexes mode (key.written mode).toList key.tokens := by
  have direction : Lexes mode key.direction.toList [.word key.direction] := by
    unfold OrderKey.direction
    cases mode <;> cases key.ascending <;> exact lex_eq_some.mp (by decide)
  have separated := (key.lexes_subject mode).append_separates (separates_blank mode)
  rw [List.append_nil] at separated
  rw [written, String.toList_append, String.toList_append]
  exact separated.append_lexes direction

theorem comma_notMem_tokens (key : OrderKey) : Token.symbol ',' ∉ key.tokens := by
  obtain ⟨column, nullTest, ascending⟩ := key
  cases nullTest <;> simp [tokens, subjectTokens]

end OrderKey

def readDirection? : Token → Option Bool
  | .word "ASC" => some true
  | .word "DESC" => some false
  | _ => none

/-- The key that all of the tokens make up. -/
def readKey? : List Token → Option OrderKey
  | [.name column, direction] =>
    (readDirection? direction).map fun ascending => ⟨column, false, ascending⟩
  | [.word "ISNULL", .symbol '(', .name column, .symbol ')', direction] =>
    (readDirection? direction).map fun ascending => ⟨column, true, ascending⟩
  | _ => none

def readOrder? (tokens : List Token) : Option (List OrderKey) :=
  (tokens.splitOn (.symbol ',')).mapM readKey?

def listedTokens (keys : List OrderKey) : List Token :=
  [.symbol ','].intercalate (keys.map OrderKey.tokens)

theorem readKey?_tokens (key : OrderKey) : readKey? key.tokens = some key := by
  obtain ⟨column, nullTest, ascending⟩ := key
  cases nullTest <;> cases ascending <;> rfl

theorem mapM_readKey? (keys : List OrderKey) : (keys.map OrderKey.tokens).mapM readKey? = some keys := by
  induction keys with
  | nil => rfl
  | cons key keys ih => simp [readKey?_tokens, ih]

theorem readOrder?_listed {keys : List OrderKey} (present : keys ≠ []) :
    readOrder? (listedTokens keys) = some keys := by
  have apart : ∀ tokens ∈ keys.map OrderKey.tokens, Token.symbol ',' ∉ tokens := by
    intro tokens member
    obtain ⟨key, -, rfl⟩ := List.mem_map.mp member
    exact key.comma_notMem_tokens
  rw [readOrder?, listedTokens, List.splitOn_intercalate _ apart (by simpa using present), mapM_readKey?]

theorem lexes_listedKeys (mode : Mode) (keys : List OrderKey) :
    Lexes mode (", ".intercalate (keys.map (·.written mode))).toList (listedTokens keys) := by
  let pieces := keys.map fun key => ((key.written mode).toList, key.tokens)
  have lexed : ∀ piece ∈ pieces, Lexes mode piece.1 piece.2 := by
    intro piece member
    obtain ⟨key, -, rfl⟩ := List.mem_map.mp member
    exact key.lexes_written mode
  have joined := lexes_joined (separates_comma mode) lexed
  simpa [pieces, listedTokens, List.map_map, Function.comp_def] using joined

theorem mapM_sql_eq_ok {keys : List OrderKey} {texts : List String} :
    keys.mapM (OrderKey.sql mode) = .ok texts ↔
      (∀ key ∈ keys, IsName key.column) ∧ texts = keys.map (·.written mode) := by
  induction keys generalizing texts with
  | nil => simp [eq_comm, pure, Except.pure]
  | cons key keys ih =>
    rw [List.mapM_cons, bind_eq_ok]
    simp only [OrderKey.sql_eq_ok, bind_eq_ok, ih]
    constructor
    · rintro ⟨_, ⟨named, rfl⟩, _, ⟨others, rfl⟩, same⟩
      cases same
      exact ⟨List.forall_mem_cons.mpr ⟨named, others⟩, rfl⟩
    · rintro ⟨named, rfl⟩
      obtain ⟨first, others⟩ := List.forall_mem_cons.mp named
      exact ⟨_, ⟨first, rfl⟩, _, ⟨others, rfl⟩, rfl⟩

def orderedText (sql : String) (keys : List OrderKey) (count : Nat) : String :=
  sql ++ " ORDER BY " ++ ", ".intercalate (keys.map (·.written .mysql)) ++ " LIMIT " ++
    Text.numberText count

theorem forall_mem_orderKeys {property : String → Prop} {items : List SortItem} :
    (∀ key ∈ items.flatMap orderKeys, property key.column) ↔ ∀ item ∈ items, property item.column := by
  rw [List.forall_mem_flatMap]
  refine forall₂_congr fun item _ => ?_
  unfold orderKeys
  cases item.order <;> simp

theorem topN_eq_ok {sql text : String} {items : List SortItem} {count : Nat} :
    topN .mysql sql items count = .ok text ↔
      (∀ item ∈ items, IsName item.column) ∧
        text = orderedText sql (items.flatMap orderKeys) count := by
  rw [← @forall_mem_orderKeys IsName]
  unfold topN orderedText
  simp only [bind_eq_ok, mapM_sql_eq_ok]
  constructor
  · rintro ⟨_, ⟨named, rfl⟩, same⟩
    cases same
    exact ⟨named, String.append_assoc.symm⟩
  · rintro ⟨named, rfl⟩
    exact ⟨_, ⟨named, rfl⟩, congrArg Except.ok String.append_assoc.symm⟩

theorem lexes_orderedText {sql : String} {query : List Token} (lexed : Lexes .mysql sql.toList query)
    (keys : List OrderKey) (count : Nat) :
    Lexes .mysql (orderedText sql keys count).toList
      (query ++ [.word "ORDER", .word "BY"] ++ listedTokens keys ++
        [.word "LIMIT", .word (Text.numberText count)]) := by
  have orders : Separates .mysql " ORDER BY ".toList [.word "ORDER", .word "BY"] := by decide
  have limits : Separates .mysql " LIMIT ".toList [.word "LIMIT"] := by decide
  have ordered := (lexed.append_separates orders).append_lexes (lexes_listedKeys .mysql keys)
  have limited := (ordered.append_separates limits).append_lexes (lexes_numeral .mysql count)
  simpa [orderedText, Text.toList_numberText, List.append_assoc] using limited

end TypeBridge.Sql
