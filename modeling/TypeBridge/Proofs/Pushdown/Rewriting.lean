import TypeBridge.Proofs.Pushdown.Rules
import TypeBridge.Proofs.Text.Numeral

/-!
Rewriting preserves predicates. The text that is made for an expression has one reading, and with its
parameters put in for the marks the reading is the expression itself: the same operators, the same
nesting and order of terms, and each constant in its place.
-/
namespace TypeBridge.Predicate

open TypeBridge.Sql

variable {mode : Mode}

structure Reading where
  expression : Expression
  fragment : Fragment
  tokens : List Token
  tree : Tree Unit

/-- The fragment is read in this way, and with its parameters it is the expression. -/
structure Reading.Faithful (mode : Mode) (reading : Reading) : Prop where
  lexed : Lexes mode reading.fragment.sql.toList reading.tokens
  reads : Reads reading.tokens reading.tree
  fills : ∀ rest,
    reading.tree.fill (reading.fragment.parameters ++ rest) = some (reading.expression.bare, rest)

theorem lexesApart_opening (mode : Mode) : LexesApart mode ['('] [opening] := by
  cases mode <;> decide

theorem separates_operator (mode : Mode) (operator : Comparison) :
    Separates mode (") ".toList ++ operator.sql.toList ++ " (".toList)
      [closing, .operator operator.symbol, opening] := by
  cases mode <;> cases operator <;> decide

theorem separates_keyword (mode : Mode) (kind : Junction) :
    Separates mode (") ".toList ++ kind.word.toList ++ " (".toList)
      [closing, .word kind.word, opening] := by
  cases mode <;> cases kind <;> decide

theorem faithful_column (mode : Mode) (reference : ColumnRef) :
    Reading.Faithful mode
      ⟨.column reference, ⟨enclosed (nameQuote mode) reference.name.toList, []⟩,
        [.name reference.name], .column reference.name⟩ :=
  ⟨lexes_enclosed mode reference.name, .column _, fun _ => rfl⟩

theorem faithful_constant (mode : Mode) (type : LogicalType) (value : LogicalValue) :
    Reading.Faithful mode
      ⟨.constant type value, ⟨"?", [⟨type, value⟩]⟩, [.symbol '?'], .constant ()⟩ := by
  refine ⟨?_, .mark, fun _ => rfl⟩
  have text : LexesApart mode "?".toList [.symbol '?'] := by cases mode <;> decide
  exact text.lexes

theorem faithful_compare (operator : Comparison) {left right : Reading} (first : left.Faithful mode)
    (second : right.Faithful mode) :
    Reading.Faithful mode ⟨.comparison operator left.expression right.expression,
      Fragment.compare operator left.fragment right.fragment,
      bracketed left.tokens ++ .operator operator.symbol :: bracketed right.tokens,
      .comparison operator left.tree right.tree⟩ := by
  refine ⟨?_, .comparison operator first.reads second.reads, fun rest => ?_⟩
  · have text : (Fragment.compare operator left.fragment right.fragment).sql.toList =
        ['('] ++ left.fragment.sql.toList ++ (") ".toList ++ operator.sql.toList ++ " (".toList) ++
          (right.fragment.sql.toList ++ [')']) := by
      simp [Fragment.compare]
    have tokens : bracketed left.tokens ++ .operator operator.symbol :: bracketed right.tokens =
        [opening] ++ left.tokens ++ [closing, .operator operator.symbol, opening] ++
          (right.tokens ++ [closing]) := by
      simp [bracketed]
    dsimp only
    rw [text, tokens]
    have opened := (lexesApart_opening mode).append_lexes first.lexed
    have middle := opened.append_separates (separates_operator mode operator)
    have last := second.lexed.append_separates (separates_closing mode)
    exact (middle.append last).lexes
  · simp only [Fragment.compare, List.append_assoc, Tree.fill, first.fills, Option.bind_eq_bind,
      Option.bind_some, second.fills, Expression.bare]
    rfl

theorem fillAll_of_faithful {readings : List Reading}
    (all : ∀ reading ∈ readings, reading.Faithful mode) (rest : List Parameter) :
    Tree.fillAll (readings.map (·.tree)) (readings.flatMap (·.fragment.parameters) ++ rest) =
      some (Expression.bareAll (readings.map (·.expression)), rest) := by
  induction readings with
  | nil => rfl
  | cons reading readings ih =>
    have first := (all reading (List.mem_cons_self ..)).fills
    have others := ih fun other member => all other (List.mem_cons_of_mem _ member)
    simp only [List.map_cons, List.flatMap_cons, List.append_assoc, Tree.fillAll, first,
      Option.bind_eq_bind, Option.bind_some, others, Expression.bareAll]
    rfl

/-- A bracket that closes one term stands before the keyword of the next, so the keyword with the brackets
around it separates the terms. -/
theorem intercalate_bracketed (kind : Junction) (head : List Token)
    (parts : List (List Token × Tree Unit)) :
    [opening] ++ ([closing, .word kind.word, opening].intercalate (head :: parts.map (·.1)) ++
      [closing]) = bracketed head ++ furtherTerms kind parts := by
  induction parts generalizing head with
  | nil => simp [bracketed, furtherTerms]
  | cons part parts ih =>
    have next := ih part.1
    simp only [List.map_cons, List.intercalate_cons_cons, furtherTerms_cons, bracketed] at next ⊢
    simp only [List.cons_append, List.append_assoc, List.nil_append] at next ⊢
    rw [next]

theorem faithful_join (kind : Junction) {junction : Expression} {head : Reading} {readings : List Reading}
    (bare : junction.bare =
      .junction kind (Expression.bareAll ((head :: readings).map (·.expression))))
    (several : readings ≠ []) (all : ∀ reading ∈ head :: readings, reading.Faithful mode) :
    Reading.Faithful mode ⟨junction, Fragment.join kind.word ((head :: readings).map (·.fragment)),
      bracketed head.tokens ++
        furtherTerms kind (readings.map fun reading => (reading.tokens, reading.tree)),
      .junction kind (head.tree :: readings.map (·.tree))⟩ := by
  refine ⟨?_, ?_, fun rest => ?_⟩
  · let pieces := (head :: readings).map fun reading => (reading.fragment.sql.toList, reading.tokens)
    have lexed : ∀ piece ∈ pieces, Lexes mode piece.1 piece.2 := by
      intro piece member
      obtain ⟨reading, listed, rfl⟩ := List.mem_map.mp member
      exact (all reading listed).lexed
    have closes : Separates mode [')'] [closing] := separates_closing mode
    have terms := lexesApart_joined (separates_keyword mode kind) closes lexed
    have joined := (lexesApart_opening mode).append terms
    have text : (Fragment.join kind.word ((head :: readings).map (·.fragment))).sql.toList =
        ['('] ++ ((") ".toList ++ kind.word.toList ++ " (".toList).intercalate (pieces.map (·.1)) ++
          [')']) := by
      simp [Fragment.join, pieces, Function.comp_def]
    have tokens := intercalate_bracketed kind head.tokens
      (readings.map fun reading => (reading.tokens, reading.tree))
    dsimp only
    rw [text, ← tokens]
    simpa [pieces, Function.comp_def] using joined.lexes
  · have trees : readings.map (·.tree) =
        (readings.map fun reading => (reading.tokens, reading.tree)).map (·.2) := by
      rw [List.map_map]
      rfl
    have first := (all head (List.mem_cons_self ..)).reads
    dsimp only
    rw [trees]
    refine @Reads.junction kind (head.tokens, head.tree) _ (by simpa using several) first ?_
    intro part member
    obtain ⟨reading, listed, rfl⟩ := List.mem_map.mp member
    exact (all reading (List.mem_cons_of_mem _ listed)).reads
  · have filled := fillAll_of_faithful all rest
    rw [List.map_cons] at filled
    simp only [Fragment.join, List.flatMap_map, Tree.fill, filled, bare]
    rfl

theorem faithful_junction (kind : Junction) {junction : Expression} {readings : List Reading}
    (bare : junction.bare =
      .junction kind (Expression.bareAll (readings.map (·.expression))))
    (several : 2 ≤ (readings.map (·.expression)).length)
    (all : ∀ reading ∈ readings, reading.Faithful mode) :
    ∃ tokens tree, Reading.Faithful mode
      ⟨junction, Fragment.join kind.word (readings.map (·.fragment)), tokens, tree⟩ := by
  match readings with
  | [] | [_] => simp at several
  | first :: second :: others =>
    exact ⟨_, _, faithful_join kind bare (List.cons_ne_nil second others) all⟩

mutual

/-- By induction on the expression; the terms of a junction are one after the other. -/
theorem faithful_rewrite : ∀ (expression : Expression) {fragment : Fragment},
    rewrite mode expression = .ok (some fragment) →
      ∃ tokens tree, Reading.Faithful mode ⟨expression, fragment, tokens, tree⟩
  | .column reference, fragment, h => by
    obtain ⟨-, rfl⟩ := rewrite_column.mp h
    exact ⟨_, _, faithful_column mode reference⟩
  | .constant type value, fragment, h => by
    obtain ⟨-, rfl⟩ := rewrite_constant.mp h
    exact ⟨_, _, faithful_constant mode type value⟩
  | .comparison operator left right, fragment, h => by
    obtain ⟨-, first, second, leftDone, rightDone, rfl⟩ := rewrite_comparison.mp h
    obtain ⟨_, _, left⟩ := faithful_rewrite left leftDone
    obtain ⟨_, _, right⟩ := faithful_rewrite right rightDone
    exact ⟨_, _, faithful_compare operator left right⟩
  | .conjunction terms, fragment, h => by
    obtain ⟨several, fragments, done, rfl⟩ := (@rewrite_junction _ terms _ .and).mp h
    obtain ⟨readings, rfl, rfl, all⟩ := faithful_rewriteTerms terms done
    exact faithful_junction .and rfl several all
  | .disjunction terms, fragment, h => by
    obtain ⟨several, fragments, done, rfl⟩ := (@rewrite_junction _ terms _ .or).mp h
    obtain ⟨readings, rfl, rfl, all⟩ := faithful_rewriteTerms terms done
    exact faithful_junction .or rfl several all

theorem faithful_rewriteTerms : ∀ (terms : List Expression) {fragments : List Fragment},
    rewriteTerms mode terms = .ok (some fragments) → ∃ readings : List Reading,
      terms = readings.map (·.expression) ∧ fragments = readings.map (·.fragment) ∧
        ∀ reading ∈ readings, reading.Faithful mode
  | [], fragments, h => by
    rw [rewriteTerms] at h
    cases h
    exact ⟨[], rfl, rfl, by simp⟩
  | term :: rest, fragments, h => by
    obtain ⟨fragment, others, done, restDone, rfl⟩ := rewriteTerms_cons.mp h
    obtain ⟨tokens, tree, first⟩ := faithful_rewrite term done
    obtain ⟨readings, terms, fragments, all⟩ := faithful_rewriteTerms rest restDone
    refine ⟨⟨term, fragment, tokens, tree⟩ :: readings, ?_, ?_, ?_⟩
    · rw [List.map_cons, ← terms]
    · rw [List.map_cons, ← fragments]
    · intro reading member
      rcases List.mem_cons.mp member with rfl | later
      · exact first
      · exact all reading later

end

/-- The text that is made for an expression is read as exactly one predicate, and with the parameters put
in for the marks from left to right, none left over, that predicate is the expression. -/
theorem rewrite_reads_back {expression : Expression} {fragment : Fragment}
    (h : rewrite mode expression = .ok (some fragment)) :
    ∃ tokens tree, lex mode fragment.sql = some tokens ∧ Reads tokens tree ∧
      (∀ other, Reads tokens other → other = tree) ∧
      tree.fill fragment.parameters = some (expression.bare, []) := by
  obtain ⟨tokens, tree, faithful⟩ := faithful_rewrite expression h
  have filled := faithful.fills []
  rw [List.append_nil] at filled
  exact ⟨tokens, tree, lex_eq_some.mpr faithful.lexed, faithful.reads,
    fun _ again => reads_unique faithful.reads again, filled⟩

/-- Columns whose names look like the end of a term, a mark and another term, in the quotes of either mode. -/
theorem rewrite_reads_back_bracketedName :
    let column (name : String) : Expression := .column ⟨name, .integer, .ofType .integer "INT"⟩
    let backtick := column "a`) = (?) AND (b"
    let expression : Expression := .disjunction
      [.conjunction [.comparison .greaterOrEqual backtick (.constant .bigInt (.long 1)),
        .comparison .lessOrEqual backtick (.constant .bigInt (.long 9))],
        .comparison .notEqual (.constant .bigInt (.long 5)) backtick]
    let fragment : Fragment :=
      ⟨"(((`a``) = (?) AND (b`) >= (?)) AND ((`a``) = (?) AND (b`) <= (?))) OR ((?) <> (`a``) = (?) AND (b`))",
        [⟨.bigInt, .long 1⟩, ⟨.bigInt, .long 9⟩, ⟨.bigInt, .long 5⟩]⟩
    let quote := column "a\") < (?) OR (\"b"
    let other : Expression := .conjunction
      [.comparison .less quote (.constant .bigInt (.long 2)),
        .disjunction [.comparison .equal quote (.constant .bigInt (.long 7)),
          .comparison .greater (.constant .bigInt (.long 3)) quote]]
    let otherFragment : Fragment :=
      ⟨"((\"a\"\") < (?) OR (\"\"b\") < (?)) AND (((\"a\"\") < (?) OR (\"\"b\") = (?)) OR " ++
        "((?) > (\"a\"\") < (?) OR (\"\"b\")))",
        [⟨.bigInt, .long 2⟩, ⟨.bigInt, .long 7⟩, ⟨.bigInt, .long 3⟩]⟩
    (rewrite .mysql expression = .ok (some fragment) ∧
      ∃ tokens tree, lex .mysql fragment.sql = some tokens ∧ Reads tokens tree ∧
        (∀ other, Reads tokens other → other = tree) ∧
        tree.fill fragment.parameters = some (expression.bare, [])) ∧
    rewrite .oracle other = .ok (some otherFragment) ∧
      ∃ tokens tree, lex .oracle otherFragment.sql = some tokens ∧ Reads tokens tree ∧
        (∀ other, Reads tokens other → other = tree) ∧
        tree.fill otherFragment.parameters = some (other.bare, []) := by
  intro column backtick expression fragment quote other otherFragment
  have rewritten : rewrite .mysql expression = .ok (some fragment) := rfl
  have otherRewritten : rewrite .oracle other = .ok (some otherFragment) := rfl
  exact ⟨⟨rewritten, rewrite_reads_back rewritten⟩, otherRewritten, rewrite_reads_back otherRewritten⟩

end TypeBridge.Predicate
