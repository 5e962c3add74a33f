import TypeBridge.Proofs.Pushdown.Grammar
import TypeBridge.Proofs.Sql.Quoting

/-!
The rules by which expressions are rewritten. Each expression asks something of itself alone: a column of its
name, a constant of its value and type, a comparison of the types of its sides, a junction of the number of
its terms. It is rewritten when it has what it asks for and its operands are rewritten, and its fragment
is made of theirs.
-/
namespace TypeBridge

namespace LogicalType

inductive IsInteger : LogicalType → Prop where
  | tinyInt : IsInteger .tinyInt
  | smallInt : IsInteger .smallInt
  | integer : IsInteger .integer
  | bigInt : IsInteger .bigInt

inductive IsNumber : LogicalType → Prop where
  | integer {type : LogicalType} (whole : type.IsInteger) : IsNumber type
  | decimal (precision scale : Nat) : IsNumber (.decimal precision scale)
  | real : IsNumber .real
  | double : IsNumber .double

inductive IsText : LogicalType → Prop where
  | char (length : Nat) : IsText (.char length)
  | varchar (length : Option Nat) : IsText (.varchar length)

variable {type : LogicalType}

theorem isInteger_iff : type.isInteger = true ↔ type.IsInteger := by
  constructor
  · intro whole
    cases type with
    | tinyInt => exact .tinyInt
    | smallInt => exact .smallInt
    | integer => exact .integer
    | bigInt => exact .bigInt
    | _ => cases whole
  · intro whole
    cases whole <;> rfl

theorem isNumeric_iff : type.isNumeric = true ↔ type.IsNumber := by
  constructor
  · intro numeric
    cases type with
    | tinyInt | smallInt | integer | bigInt => exact .integer (isInteger_iff.mp rfl)
    | decimal precision scale => exact .decimal precision scale
    | real => exact .real
    | double => exact .double
    | _ => cases numeric
  · intro number
    cases number with
    | integer whole => simp [isNumeric, isInteger_iff.mpr whole]
    | decimal | real | double => rfl

theorem isTextual_iff : type.isTextual = true ↔ type.IsText := by
  constructor
  · intro textual
    cases type with
    | char length => exact .char length
    | varchar length => exact .varchar length
    | _ => cases textual
  · intro text
    cases text <;> rfl

instance (type : LogicalType) : Decidable type.IsText := decidable_of_iff _ isTextual_iff

theorem IsNumber.not_isText (number : type.IsNumber) : ¬type.IsText := by
  intro text
  cases text with
  | char | varchar => cases number with | integer whole => cases whole

end LogicalType

namespace Expression

def junction : Junction → List Expression → Expression
  | .and, terms => .conjunction terms
  | .or, terms => .disjunction terms

/-- What an expression asks of itself, whatever its operands ask. -/
def HasRule : Expression → Prop
  | .column reference => Sql.IsName reference.name
  | .constant type value => value ≠ .null ∧
    (type.IsInteger ∨ (∃ precision scale, type = .decimal precision scale) ∨ ∃ length, type = .varchar length)
  | .comparison _ left right => left.type.IsNumber ∧ right.type.IsNumber
  | .conjunction terms | .disjunction terms => 2 ≤ terms.length

theorem hasRule_junction (kind : Junction) (terms : List Expression) :
    (junction kind terms).HasRule ↔ 2 ≤ terms.length := by
  cases kind <;> rfl

end Expression

namespace Predicate

variable {mode : Mode} {terms : List Expression} {fragment : Fragment} {fragments : List Fragment}

theorem isBindable_eq_true {type : LogicalType} : isBindable type = true ↔
    type.IsInteger ∨ (∃ precision scale, type = .decimal precision scale) ∨ ∃ length, type = .varchar length := by
  rw [← LogicalType.isInteger_iff]
  cases type <;> simp [isBindable, LogicalType.isInteger]

theorem isNull_eq_true {value : LogicalValue} : value.isNull = true ↔ value = .null := by
  cases value <;> simp [LogicalValue.isNull]

theorem rewrite_column {reference : ColumnRef} :
    rewrite mode (.column reference) = .ok (some fragment) ↔
      (Expression.column reference).HasRule ∧ fragment =
        ⟨Sql.enclosed (Sql.nameQuote mode) reference.name.toList, []⟩ := by
  rw [rewrite, bind_eq_ok]
  simp only [Sql.quoteName_eq_ok]
  constructor
  · rintro ⟨_, ⟨rule, rfl⟩, made⟩
    cases made
    exact ⟨rule, rfl⟩
  · rintro ⟨rule, rfl⟩
    exact ⟨_, ⟨rule, rfl⟩, rfl⟩

theorem rewrite_constant {type : LogicalType} {value : LogicalValue} :
    rewrite mode (.constant type value) = .ok (some fragment) ↔
      (Expression.constant type value).HasRule ∧ fragment = ⟨"?", [⟨type, value⟩]⟩ := by
  rw [rewrite, Expression.HasRule, ← isBindable_eq_true, Ne, ← isNull_eq_true]
  cases value.isNull <;> cases isBindable type <;> simp [eq_comm]

theorem rewrite_comparison {operator : Comparison} {left right : Expression} :
    rewrite mode (.comparison operator left right) = .ok (some fragment) ↔
      (Expression.comparison operator left right).HasRule ∧ ∃ first second,
        rewrite mode left = .ok (some first) ∧ rewrite mode right = .ok (some second) ∧
          fragment = Fragment.compare operator first second := by
  rw [rewrite, Expression.HasRule, ← LogicalType.isNumeric_iff, ← LogicalType.isNumeric_iff, ← Bool.and_eq_true]
  constructor
  · intro h
    split at h
    next numbers =>
      obtain ⟨_ | first, done, h⟩ := bind_eq_ok.mp h
      · cases h
      · obtain ⟨_ | second, rightDone, h⟩ := bind_eq_ok.mp h <;> cases h
        exact ⟨numbers, first, second, done, rightDone, rfl⟩
    next => cases h
  · rintro ⟨numbers, first, second, done, rightDone, rfl⟩
    rw [if_pos numbers]
    exact bind_eq_ok.mpr ⟨some first, done, bind_eq_ok.mpr ⟨some second, rightDone, rfl⟩⟩

theorem rewriteTerms_cons {term : Expression} {rest : List Expression} :
    rewriteTerms mode (term :: rest) = .ok (some fragments) ↔ ∃ first others,
      rewrite mode term = .ok (some first) ∧ rewriteTerms mode rest = .ok (some others) ∧
        fragments = first :: others := by
  rw [rewriteTerms, bind_eq_ok]
  constructor
  · rintro ⟨_ | first, done, h⟩
    · cases h
    · obtain ⟨_ | others, restDone, h⟩ := bind_eq_ok.mp h <;> cases h
      exact ⟨first, others, done, restDone, rfl⟩
  · rintro ⟨first, others, done, restDone, rfl⟩
    exact ⟨some first, done, bind_eq_ok.mpr ⟨some others, restDone, rfl⟩⟩

theorem rewrite_junction {kind : Junction} :
    rewrite mode (.junction kind terms) = .ok (some fragment) ↔
      (Expression.junction kind terms).HasRule ∧ ∃ fragments,
        rewriteTerms mode terms = .ok (some fragments) ∧ fragment = Fragment.join kind.word fragments := by
  have joined : (if terms.length < 2 then .ok none
      else do return (← rewriteTerms mode terms).map (Fragment.join kind.word)) =
        (.ok (some fragment) : Except Error (Option Fragment)) ↔ 2 ≤ terms.length ∧ ∃ fragments,
          rewriteTerms mode terms = .ok (some fragments) ∧ fragment = Fragment.join kind.word fragments := by
    rw [← Nat.not_lt]
    constructor
    · intro h
      split at h
      · cases h
      next several =>
        obtain ⟨_ | fragments, done, h⟩ := bind_eq_ok.mp h <;> cases h
        exact ⟨several, fragments, done, rfl⟩
    · rintro ⟨several, fragments, done, rfl⟩
      rw [if_neg several]
      exact bind_eq_ok.mpr ⟨some fragments, done, rfl⟩
  cases kind <;> rw [Expression.junction, rewrite, Expression.HasRule] <;> exact joined

end Predicate

end TypeBridge
