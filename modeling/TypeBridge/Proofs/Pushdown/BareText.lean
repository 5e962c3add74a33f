import TypeBridge.Proofs.Pushdown.Support

/-!
Where text occurs in rewritten predicates. No comparison has text on a side. The terms of a junction are not
asked for their types, though, so a column of text that stands there by itself reaches the backend, and
that is the only way in.
-/
namespace TypeBridge

namespace Expression

variable {expression part : Expression}

def terms : Expression → List Expression
  | .conjunction terms | .disjunction terms => terms
  | _ => []

theorem mem_operands_of_terms {term : Expression} (listed : term ∈ expression.terms) :
    term ∈ expression.operands := by
  cases expression with
  | conjunction | disjunction => exact listed
  | _ => cases listed

/-- Whatever is within an expression is an operand of something there. -/
theorem exists_parent (within : part ∈ expression.parts) :
    part = expression ∨ ∃ parent ∈ expression.parts, part ∈ parent.operands := by
  induction expression using byOperands with
  | inherits expression each =>
    rcases mem_parts.mp within with same | ⟨operand, direct, within⟩
    · exact .inl same
    · refine .inr ?_
      rcases each operand direct within with rfl | ⟨parent, inside, below⟩
      · exact ⟨expression, mem_parts_self expression, direct⟩
      · exact ⟨parent, mem_parts_trans (operand_mem_parts direct) inside, below⟩

end Expression

namespace Predicate

open Expression (exists_parent mem_parts_self mem_parts_trans operand_mem_parts)

variable {mode : Mode} {expression : Expression} {fragment : Fragment}

/-- An operand of an expression with a rule is free of text by itself, but where it is a term. -/
theorem untextual_of_hasRule {parent operand : Expression} (rule : parent.HasRule)
    (direct : operand ∈ parent.operands)
    (terms : ∀ term ∈ parent.terms, ¬term.type.IsText) : ¬operand.type.IsText := by
  cases parent with
  | column | constant => cases direct
  | comparison operator left right =>
    obtain ⟨leftNumber, rightNumber⟩ := rule
    simp only [Expression.operands, List.mem_cons, List.not_mem_nil, or_false] at direct
    rcases direct with rfl | rfl
    · exact leftNumber.not_isText
    · exact rightNumber.not_isText
  | conjunction | disjunction => exact terms operand direct

/-- In a rewritten expression all comparisons are of numbers. It is free of text, at any depth, just where it
is no text itself and no junction in it has a text for a term. -/
theorem rewritten_textFree_iff (rewritten : rewrite mode expression = .ok (some fragment)) :
    (∀ operator left right, .comparison operator left right ∈ expression.parts →
      left.type.IsNumber ∧ right.type.IsNumber) ∧
    ((∀ part ∈ expression.parts, ¬part.type.IsText) ↔
      ¬expression.type.IsText ∧ ∀ part ∈ expression.parts, ∀ term ∈ part.terms, ¬term.type.IsText) := by
  have rules : expression.Supported := converts_iff_supported.mp ⟨fragment, rewritten⟩
  refine ⟨fun operator left right within => rules _ within, ?_, ?_⟩
  · intro free
    refine ⟨free expression (mem_parts_self expression), fun part within term listed => ?_⟩
    have direct := Expression.mem_operands_of_terms listed
    exact free term (mem_parts_trans within (operand_mem_parts direct))
  · rintro ⟨untextual, terms⟩ part within
    rcases exists_parent within with rfl | ⟨parent, inside, direct⟩
    · exact untextual
    · exact untextual_of_hasRule (rules parent inside) direct (terms parent inside)

/-- A truth value may stand by itself among comparisons, and brings no text along. Nor do comparisons of
numbers, at whatever depth. -/
theorem rewritten_textFree_iff_flag :
    let column (name : String) (type : LogicalType) : Expression :=
      .column ⟨name, type, .ofType .other "any"⟩
    let below := Expression.comparison .less (column "qty" .integer) (.constant .bigInt (.long 10))
    let dearer := Expression.comparison .greaterOrEqual (column "price" (.decimal 10 2)) (column "cost" .double)
    let flagged := Expression.disjunction [.conjunction [below, column "open" .boolean], below]
    let nested := Expression.disjunction [below, .conjunction [dearer, .disjunction [below, dearer]]]
    (∃ fragment, rewrite .mysql flagged = .ok (some fragment) ∧
      ∀ part ∈ flagged.parts, ¬part.type.IsText) ∧
    ∃ fragment, rewrite .oracle nested = .ok (some fragment) ∧
      ((column "price" (.decimal 10 2)).type.IsNumber ∧ (column "cost" .double).type.IsNumber) ∧
      ∀ part ∈ nested.parts, ¬part.type.IsText := by
  intro column below dearer flagged nested
  constructor
  · refine ⟨_, rfl, (@rewritten_textFree_iff .mysql flagged _ rfl).2.mpr ⟨nofun, ?_⟩⟩
    decide
  · obtain ⟨numbers, textFree⟩ := @rewritten_textFree_iff .oracle nested _ rfl
    have within : dearer ∈ nested.parts :=
      Expression.mem_parts.mpr (.inr ⟨.conjunction [dearer, .disjunction [below, dearer]],
        List.mem_cons_of_mem _ List.mem_cons_self, operand_mem_parts List.mem_cons_self⟩)
    refine ⟨_, rfl, numbers _ _ _ within, textFree.mpr ⟨nofun, ?_⟩⟩
    decide

/-- Two columns of text make a conjunction. -/
theorem textColumns_joined :
    let name : Expression := .column ⟨"name", .varchar (some 10), .ofType .varchar "VARCHAR"⟩
    let code : Expression := .column ⟨"code", .char 2, .ofType .char "CHAR"⟩
    rewrite .mysql (.conjunction [name, code]) = .ok (some ⟨"(`name`) AND (`code`)", []⟩) ∧
      name ∈ (Expression.conjunction [name, code]).terms ∧ name.type.IsText := by
  intro name code
  exact ⟨rfl, List.mem_cons_self, .varchar _⟩

end Predicate

end TypeBridge
