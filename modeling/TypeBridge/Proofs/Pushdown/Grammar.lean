import TypeBridge.Proofs.Sql.Lexer
import TypeBridge.Pushdown.Predicate

/-!
The language of rewritten predicates. An operand is a name or the mark of a parameter; whatever is made of
operands puts each of them in brackets. Names come as tokens, so a bracket or a mark in a name does not
count, and then the brackets fix how a predicate is read: no sequence of tokens has two readings.
-/
namespace TypeBridge

open TypeBridge.Sql (Token)

inductive Junction where
  | and
  | or
  deriving DecidableEq

def Junction.word : Junction → String
  | and => "AND"
  | or => "OR"

def Comparison.symbol : Comparison → String
  | equal => "="
  | notEqual => "<>"
  | less => "<"
  | lessOrEqual => "<="
  | greater => ">"
  | greaterOrEqual => ">="

/-- A predicate over column names, with constants of some kind. -/
inductive Tree (α : Type) where
  | column (name : String)
  | constant (value : α)
  | comparison (operator : Comparison) (left right : Tree α)
  | junction (kind : Junction) (terms : List (Tree α))

namespace Tree

variable {α : Type}

mutual

/-- Constants put in for the marks, from left to right, and the constants that are left over. -/
def fill : Tree Unit → List α → Option (Tree α × List α)
  | column name, values => some (column name, values)
  | constant _, [] => none
  | constant _, value :: rest => some (constant value, rest)
  | comparison operator left right, values => do
    let (left, values) ← fill left values
    let (right, values) ← fill right values
    return (comparison operator left right, values)
  | junction kind terms, values => do
    let (terms, values) ← fillAll terms values
    return (junction kind terms, values)

def fillAll : List (Tree Unit) → List α → Option (List (Tree α) × List α)
  | [], values => some ([], values)
  | term :: rest, values => do
    let (term, values) ← fill term values
    let (rest, values) ← fillAll rest values
    return (term :: rest, values)

end

end Tree

mutual

def Expression.bare : Expression → Tree Parameter
  | .column reference => .column reference.name
  | .constant type value => .constant ⟨type, value⟩
  | .comparison operator left right => .comparison operator left.bare right.bare
  | .conjunction terms => .junction .and (Expression.bareAll terms)
  | .disjunction terms => .junction .or (Expression.bareAll terms)

def Expression.bareAll : List Expression → List (Tree Parameter)
  | [] => []
  | term :: rest => term.bare :: Expression.bareAll rest

end

namespace Predicate

def opening : Token := .symbol '('

def closing : Token := .symbol ')'

def bracketed (tokens : List Token) : List Token := opening :: (tokens ++ [closing])

def furtherTerms (kind : Junction) (parts : List (List Token × Tree Unit)) : List Token :=
  parts.flatMap fun part => .word kind.word :: bracketed part.1

/-- The grammar of rewritten predicates. -/
inductive Reads : List Token → Tree Unit → Prop where
  | column (name : String) : Reads [.name name] (.column name)
  | mark : Reads [.symbol '?'] (.constant ())
  | comparison (operator : Comparison) {left right : List Token} {leftTree rightTree : Tree Unit}
      (first : Reads left leftTree) (second : Reads right rightTree) :
      Reads (bracketed left ++ .operator operator.symbol :: bracketed right)
        (.comparison operator leftTree rightTree)
  | junction (kind : Junction) {head : List Token × Tree Unit} {parts : List (List Token × Tree Unit)}
      (several : parts ≠ []) (first : Reads head.1 head.2)
      (further : ∀ part ∈ parts, Reads part.1 part.2) :
      Reads (bracketed head.1 ++ furtherTerms kind parts)
        (.junction kind (head.2 :: parts.map (·.2)))

theorem furtherTerms_cons (kind : Junction) (part : List Token × Tree Unit)
    (parts : List (List Token × Tree Unit)) : furtherTerms kind (part :: parts) =
      .word kind.word :: opening :: (part.1 ++ closing :: furtherTerms kind parts) := by
  simp [furtherTerms, bracketed]

theorem symbol_injective {left right : Comparison} (same : left.symbol = right.symbol) :
    left = right := by
  cases left <;> cases right <;> first | rfl | exact absurd same (by decide)

theorem junction_word_injective {left right : Junction} (same : left.word = right.word) :
    left = right := by
  cases left <;> cases right <;> first | rfl | exact absurd same (by decide)

/-- Up to a closing bracket, tokens can be read in one way at most. -/
def Settled (tokens : List Token) (tree : Tree Unit) : Prop :=
  ∀ others otherTree rest otherRest, Reads others otherTree →
    tokens ++ closing :: rest = others ++ closing :: otherRest →
      tokens = others ∧ tree = otherTree ∧ rest = otherRest

theorem furtherTerms_settled {kind : Junction} {parts others : List (List Token × Tree Unit)}
    (settled : ∀ part ∈ parts, Settled part.1 part.2) (reads : ∀ part ∈ others, Reads part.1 part.2)
    {rest otherRest : List Token} (same : furtherTerms kind parts ++ closing :: rest =
      furtherTerms kind others ++ closing :: otherRest) : parts = others ∧ rest = otherRest := by
  induction parts generalizing others with
  | nil =>
    cases others with
    | nil => exact ⟨rfl, List.tail_eq_of_cons_eq same⟩
    | cons other others =>
      rw [furtherTerms_cons] at same
      cases List.head_eq_of_cons_eq same
  | cons part parts ih =>
    cases others with
    | nil =>
      rw [furtherTerms_cons] at same
      cases List.head_eq_of_cons_eq same
    | cons other others =>
      rw [furtherTerms_cons, furtherTerms_cons] at same
      simp only [List.cons_append, List.append_assoc, List.cons.injEq, true_and] at same
      obtain ⟨tokens, tree, same⟩ := settled part (List.mem_cons_self ..) other.1 other.2 _ _
        (reads other (List.mem_cons_self ..)) same
      obtain ⟨rfl, ends⟩ := ih (fun part member => settled part (List.mem_cons_of_mem _ member))
        (fun part member => reads part (List.mem_cons_of_mem _ member)) same
      exact ⟨congrArg (· :: parts) (Prod.ext tokens tree), ends⟩

theorem comparison_append (operator : Comparison) (left right rest : List Token) :
    bracketed left ++ .operator operator.symbol :: bracketed right ++ rest =
      opening :: (left ++ closing ::
        .operator operator.symbol :: opening :: (right ++ closing :: rest)) := by
  simp [bracketed]

theorem junction_append (kind : Junction) (head : List Token) (parts : List (List Token × Tree Unit))
    (rest : List Token) : bracketed head ++ furtherTerms kind parts ++ rest =
      opening :: (head ++ closing :: (furtherTerms kind parts ++ rest)) := by
  simp [bracketed]

theorem furtherTerms_head (kind : Junction) {parts : List (List Token × Tree Unit)}
    (several : parts ≠ []) (rest : List Token) :
    ∃ more, furtherTerms kind parts ++ rest = .word kind.word :: more := by
  obtain ⟨part, others, rfl⟩ := List.exists_cons_of_ne_nil several
  rw [furtherTerms_cons]
  exact ⟨_, rfl⟩

/-- Every reading is settled: the first bracket that closes an operand is found by the operand itself, and
what follows it tells a comparison from either junction. -/
theorem settled_of_reads {tokens : List Token} {tree : Tree Unit} (reads : Reads tokens tree) :
    Settled tokens tree := by
  induction reads with
  | column name =>
    intro others otherTree rest otherRest other same
    cases other with
    | column => cases same; exact ⟨rfl, rfl, rfl⟩
    | mark | comparison | junction => cases same
  | mark =>
    intro others otherTree rest otherRest other same
    cases other with
    | mark => cases same; exact ⟨rfl, rfl, rfl⟩
    | column | comparison | junction => cases same
  | comparison operator first second firstSettled secondSettled =>
    intro others otherTree rest otherRest other same
    cases other with
    | column | mark => cases same
    | comparison otherOperator otherFirst otherSecond =>
      rw [comparison_append, comparison_append] at same
      obtain ⟨rfl, rfl, after⟩ := firstSettled _ _ _ _ otherFirst (List.tail_eq_of_cons_eq same)
      simp only [List.cons.injEq, Token.operator.injEq, true_and] at after
      obtain ⟨sameOperator, after⟩ := after
      cases symbol_injective sameOperator
      obtain ⟨rfl, rfl, ends⟩ := secondSettled _ _ _ _ otherSecond after
      exact ⟨rfl, rfl, List.tail_eq_of_cons_eq ends⟩
    | junction kind several otherFirst further =>
      -- Past the first operand an operator follows in one and a keyword in the other.
      rw [comparison_append, junction_append] at same
      obtain ⟨_, _, after⟩ := firstSettled _ _ _ _ otherFirst (List.tail_eq_of_cons_eq same)
      obtain ⟨more, keyword⟩ := furtherTerms_head kind several (closing :: otherRest)
      rw [keyword] at after
      cases List.head_eq_of_cons_eq after
  | @junction kind head parts several first further firstSettled furtherSettled =>
    intro others otherTree rest otherRest other same
    cases other with
    | column | mark => cases same
    | comparison otherOperator otherFirst otherSecond =>
      -- Past the first operand an operator follows in one and a keyword in the other.
      rw [comparison_append, junction_append] at same
      obtain ⟨_, _, after⟩ := firstSettled _ _ _ _ otherFirst (List.tail_eq_of_cons_eq same)
      obtain ⟨more, keyword⟩ := furtherTerms_head kind several (closing :: rest)
      rw [keyword] at after
      cases List.head_eq_of_cons_eq after
    | @junction otherKind otherHead otherParts otherSeveral otherFirst otherFurther =>
      rw [junction_append, junction_append] at same
      obtain ⟨sameHead, sameTree, after⟩ :=
        firstSettled _ _ _ _ otherFirst (List.tail_eq_of_cons_eq same)
      -- The first terms are the same, so what follows them is the same keyword.
      have sameKind : kind = otherKind := by
        obtain ⟨more, keyword⟩ := furtherTerms_head kind several (closing :: rest)
        obtain ⟨otherMore, otherKeyword⟩ := furtherTerms_head otherKind otherSeveral (closing :: otherRest)
        rw [keyword, otherKeyword] at after
        exact junction_word_injective (Token.word.inj (List.head_eq_of_cons_eq after))
      subst sameKind
      obtain ⟨rfl, ends⟩ := furtherTerms_settled furtherSettled otherFurther after
      exact ⟨by rw [sameHead], by rw [sameTree], ends⟩

/-- No sequence of tokens has two readings. -/
theorem reads_unique {tokens : List Token} {tree other : Tree Unit} (reads : Reads tokens tree)
    (again : Reads tokens other) : other = tree := by
  obtain ⟨_, same, _⟩ := settled_of_reads reads tokens other [] [] again rfl
  exact same.symm

end Predicate

end TypeBridge
