import TypeBridge.Proofs.Pushdown.Rules

/-!
Which predicates are rewritten. An expression is rewritten when it and every expression within it have what
they ask for, so the order of terms makes no difference to that, and only reorders the parameters.
-/
namespace TypeBridge

namespace Expression

def operands : Expression → List Expression
  | .column _ | .constant _ _ => []
  | .comparison _ left right => [left, right]
  | .conjunction terms | .disjunction terms => terms

mutual

def parts : Expression → List Expression
  | .column reference => [.column reference]
  | .constant type value => [.constant type value]
  | .comparison operator left right =>
    .comparison operator left right :: (parts left ++ parts right)
  | .conjunction terms => .conjunction terms :: partsAll terms
  | .disjunction terms => .disjunction terms :: partsAll terms

def partsAll : List Expression → List Expression
  | [] => []
  | term :: rest => parts term ++ partsAll rest

end

def parameter? : Expression → Option Parameter
  | .constant type value => some ⟨type, value⟩
  | _ => none

def constants (expression : Expression) : List Parameter := expression.parts.filterMap parameter?

@[simp]
theorem operands_junction (kind : Junction) (terms : List Expression) :
    (junction kind terms).operands = terms := by
  cases kind <;> rfl

def Supported (expression : Expression) : Prop := ∀ part ∈ expression.parts, part.HasRule

/-- The same but for the order of terms, of any junctions at any depth. -/
inductive Rearranged : Expression → Expression → Prop where
  | refl (expression : Expression) : Rearranged expression expression
  | trans {first second third : Expression} (former : Rearranged first second)
      (latter : Rearranged second third) : Rearranged first third
  | permuted (kind : Junction) {terms others : List Expression} (order : terms.Perm others) :
      Rearranged (junction kind terms) (junction kind others)
  | term (kind : Junction) (before after : List Expression) {first second : Expression}
      (inside : Rearranged first second) :
      Rearranged (junction kind (before ++ first :: after)) (junction kind (before ++ second :: after))
  | left (operator : Comparison) {first second : Expression} (right : Expression)
      (inside : Rearranged first second) :
      Rearranged (.comparison operator first right) (.comparison operator second right)
  | right (operator : Comparison) (left : Expression) {first second : Expression}
      (inside : Rearranged first second) :
      Rearranged (.comparison operator left first) (.comparison operator left second)

variable {expression part operand : Expression} {terms : List Expression}

theorem partsAll_eq (terms : List Expression) : partsAll terms = terms.flatMap parts := by
  induction terms with
  | nil => rw [partsAll, List.flatMap_nil]
  | cons term rest ih => rw [partsAll, ih, List.flatMap_cons]

theorem parts_eq (expression : Expression) :
    expression.parts = expression :: expression.operands.flatMap parts := by
  cases expression with
  | column | constant => rw [parts, operands, List.flatMap_nil]
  | comparison operator left right => simp [parts, operands]
  | conjunction | disjunction => rw [parts, partsAll_eq, operands]

theorem mem_parts : part ∈ expression.parts ↔
    part = expression ∨ ∃ operand ∈ expression.operands, part ∈ operand.parts := by
  rw [parts_eq, List.mem_cons, List.mem_flatMap]

theorem mem_parts_self (expression : Expression) : expression ∈ expression.parts :=
  mem_parts.mpr (.inl rfl)

theorem operand_mem_parts (direct : operand ∈ expression.operands) : operand ∈ expression.parts :=
  mem_parts.mpr (.inr ⟨operand, direct, mem_parts_self operand⟩)

theorem sizeOf_operand (within : operand ∈ expression.operands) :
    sizeOf operand < sizeOf expression := by
  cases expression with
  | column | constant => cases within
  | comparison operator left right =>
    simp only [operands, List.mem_cons, List.not_mem_nil, or_false] at within
    rcases within with rfl | rfl <;> simp only [comparison.sizeOf_spec] <;> omega
  | conjunction terms | disjunction terms =>
    have smaller : sizeOf operand < sizeOf terms := List.sizeOf_lt_of_mem within
    simp only [conjunction.sizeOf_spec, disjunction.sizeOf_spec]
    omega

/-- A property that each expression inherits from its operands holds of all of them. -/
@[elab_as_elim]
theorem byOperands {motive : Expression → Prop} (expression : Expression)
    (inherits : ∀ expression, (∀ operand ∈ expression.operands, motive operand) → motive expression) :
    motive expression :=
  inherits expression fun operand _ => byOperands operand inherits
termination_by sizeOf expression
decreasing_by exact sizeOf_operand ‹_›

theorem mem_parts_trans {inner : Expression} (within : part ∈ expression.parts)
    (deeper : inner ∈ part.parts) : inner ∈ expression.parts := by
  induction expression using byOperands with
  | inherits expression each =>
    rcases mem_parts.mp within with rfl | ⟨operand, direct, within⟩
    · exact deeper
    · exact mem_parts.mpr (.inr ⟨operand, direct, each operand direct within⟩)

theorem supported_iff : expression.Supported ↔
    expression.HasRule ∧ ∀ operand ∈ expression.operands, operand.Supported := by
  constructor
  · intro rules
    refine ⟨rules _ (mem_parts_self _), fun operand direct part within => ?_⟩
    exact rules part (mem_parts.mpr (.inr ⟨operand, direct, within⟩))
  · rintro ⟨rule, rules⟩ part within
    rcases mem_parts.mp within with rfl | ⟨operand, direct, within⟩
    · exact rule
    · exact rules operand direct part within

theorem supported_comparison {operator : Comparison} {left right : Expression} :
    (comparison operator left right).Supported ↔
      (left.type.IsNumber ∧ right.type.IsNumber) ∧ left.Supported ∧ right.Supported := by
  rw [supported_iff]
  simp [HasRule, operands]

theorem supported_junction {kind : Junction} :
    (junction kind terms).Supported ↔ 2 ≤ terms.length ∧ ∀ term ∈ terms, term.Supported := by
  rw [supported_iff, hasRule_junction, operands_junction]

theorem constants_eq (expression : Expression) :
    expression.constants = expression.parameter?.toList ++ expression.operands.flatMap constants := by
  have operands : (expression.operands.flatMap parts).filterMap parameter? =
      expression.operands.flatMap constants := List.filterMap_flatMap ..
  rw [constants, parts_eq, ← operands]
  cases parameter : expression.parameter? with
  | none => rw [List.filterMap_cons_none parameter, Option.toList_none, List.nil_append]
  | some value => rw [List.filterMap_cons_some parameter, Option.toList_some, List.singleton_append]

theorem constants_comparison (operator : Comparison) (left right : Expression) :
    (comparison operator left right).constants = left.constants ++ right.constants := by
  rw [constants_eq]
  simp [parameter?, operands]

theorem constants_junction (kind : Junction) (terms : List Expression) :
    (junction kind terms).constants = terms.flatMap constants := by
  rw [constants_eq, operands_junction]
  cases kind <;> rfl

namespace Rearranged

variable {first second : Expression}

theorem type_eq (rearranged : Rearranged first second) : first.type = second.type := by
  induction rearranged with
  | refl | left | right => rfl
  | trans _ _ former latter => exact former.trans latter
  | permuted kind | term kind => cases kind <;> rfl

theorem supported_iff (rearranged : Rearranged first second) : first.Supported ↔ second.Supported := by
  induction rearranged with
  | refl => rfl
  | trans _ _ former latter => exact former.trans latter
  | permuted kind order =>
    simp only [supported_junction, order.length_eq, order.mem_iff]
  | term kind before after _ same =>
    simp only [supported_junction, List.length_append, List.length_cons, List.forall_mem_append,
      List.forall_mem_cons, same]
  | left operator right inside same | right operator left inside same =>
    simp only [supported_comparison, inside.type_eq, same]

theorem constants_perm (rearranged : Rearranged first second) :
    first.constants.Perm second.constants := by
  induction rearranged with
  | refl => exact .refl _
  | trans _ _ former latter => exact former.trans latter
  | permuted kind order =>
    rw [constants_junction, constants_junction]
    exact order.flatMap_right _
  | term kind before after _ same =>
    simp only [constants_junction, List.flatMap_append, List.flatMap_cons]
    exact (same.append_right _).append_left _
  | left operator right _ same =>
    rw [constants_comparison, constants_comparison]
    exact same.append_right _
  | right operator left _ same =>
    rw [constants_comparison, constants_comparison]
    exact same.append_left _

end Rearranged

end Expression

namespace Predicate

open Expression (byOperands supported_iff constants_comparison constants_junction operands_junction)

variable {mode : Mode} {expression : Expression} {terms : List Expression} {fragment : Fragment}
  {fragments : List Fragment} {cause : Error}

def Converts (mode : Mode) (expression : Expression) : Prop :=
  ∃ fragment, rewrite mode expression = .ok (some fragment)

theorem rewriteTerms_isSome : (∃ fragments, rewriteTerms mode terms = .ok (some fragments)) ↔
    ∀ term ∈ terms, Converts mode term := by
  induction terms with
  | nil => simp [rewriteTerms]
  | cons term rest ih =>
    rw [List.forall_mem_cons, ← ih]
    simp only [rewriteTerms_cons]
    constructor
    · rintro ⟨_, first, others, done, restDone, -⟩
      exact ⟨⟨first, done⟩, others, restDone⟩
    · rintro ⟨⟨first, done⟩, others, restDone⟩
      exact ⟨_, first, others, done, restDone, rfl⟩

theorem converts_junction {kind : Junction} : Converts mode (.junction kind terms) ↔
    (Expression.junction kind terms).HasRule ∧ ∀ term ∈ terms, Converts mode term := by
  constructor
  · rintro ⟨fragment, h⟩
    obtain ⟨rule, fragments, done, -⟩ := rewrite_junction.mp h
    exact ⟨rule, rewriteTerms_isSome.mp ⟨fragments, done⟩⟩
  · rintro ⟨rule, each⟩
    obtain ⟨fragments, done⟩ := rewriteTerms_isSome.mpr each
    exact ⟨_, rewrite_junction.mpr ⟨rule, fragments, done, rfl⟩⟩

/-- An expression is rewritten when it has a rule and its operands are rewritten. -/
theorem converts_iff : Converts mode expression ↔
    expression.HasRule ∧ ∀ operand ∈ expression.operands, Converts mode operand := by
  cases expression with
  | column reference =>
    simp [Converts, rewrite_column, Expression.operands]
  | constant type value =>
    simp [Converts, rewrite_constant, Expression.operands]
  | comparison operator left right =>
    simp only [Converts, rewrite_comparison, Expression.operands, List.forall_mem_cons]
    constructor
    · rintro ⟨_, rule, first, second, done, rightDone, -⟩
      exact ⟨rule, ⟨first, done⟩, ⟨second, rightDone⟩, by simp⟩
    · rintro ⟨rule, ⟨first, done⟩, ⟨second, rightDone⟩, -⟩
      exact ⟨_, rule, first, second, done, rightDone, rfl⟩
  | conjunction terms => exact @converts_junction _ _ .and
  | disjunction terms => exact @converts_junction _ _ .or

/-- An expression is rewritten when it and all within it have rules. -/
theorem converts_iff_supported : Converts mode expression ↔ expression.Supported := by
  induction expression using byOperands with
  | inherits expression each =>
    rw [converts_iff, supported_iff]
    exact and_congr_right fun _ => forall₂_congr each

theorem parameters_of_rewriteTerms
    (each : ∀ term ∈ terms, ∀ {fragment}, rewrite mode term = .ok (some fragment) →
      fragment.parameters = term.constants)
    (h : rewriteTerms mode terms = .ok (some fragments)) :
    fragments.flatMap (·.parameters) = terms.flatMap Expression.constants := by
  induction terms generalizing fragments with
  | nil =>
    rw [rewriteTerms] at h
    cases h
    rfl
  | cons term rest ih =>
    obtain ⟨first, others, done, restDone, rfl⟩ := rewriteTerms_cons.mp h
    have later := ih (fun term member => each term (List.mem_cons_of_mem _ member)) restDone
    rw [List.flatMap_cons, List.flatMap_cons, each term List.mem_cons_self done, later]

theorem parameters_of_rewrite (h : rewrite mode expression = .ok (some fragment)) :
    fragment.parameters = expression.constants := by
  induction expression using byOperands generalizing fragment with
  | inherits expression each =>
    have junction {kind : Junction} {terms : List Expression} (same : expression = .junction kind terms) :
        fragment.parameters = expression.constants := by
      subst same
      obtain ⟨-, fragments, done, rfl⟩ := rewrite_junction.mp h
      rw [constants_junction]
      refine parameters_of_rewriteTerms (fun term member {_} => each term ?_) done
      rwa [operands_junction]
    cases expression with
    | column reference =>
      obtain ⟨-, rfl⟩ := rewrite_column.mp h
      rfl
    | constant type value =>
      obtain ⟨-, rfl⟩ := rewrite_constant.mp h
      rfl
    | comparison operator left right =>
      obtain ⟨-, first, second, done, rightDone, rfl⟩ := rewrite_comparison.mp h
      rw [constants_comparison, Fragment.compare, each left (by simp [Expression.operands]) done,
        each right (by simp [Expression.operands]) rightDone]
    | conjunction terms => exact @junction .and terms rfl
    | disjunction terms => exact @junction .or terms rfl

theorem rewriteTerms_error (h : rewriteTerms mode terms = .error cause) :
    ∃ term ∈ terms, rewrite mode term = .error cause := by
  induction terms with
  | nil =>
    rw [rewriteTerms] at h
    cases h
  | cons term rest ih =>
    rw [rewriteTerms] at h
    rcases bind_eq_error.mp h with failed | ⟨_ | first, -, h⟩
    · exact ⟨term, List.mem_cons_self, failed⟩
    · cases h
    · rcases bind_eq_error.mp h with failed | ⟨_, -, h⟩
      · obtain ⟨other, later, failed⟩ := ih failed
        exact ⟨other, List.mem_cons_of_mem _ later, failed⟩
      · cases h

theorem rewrite_error (h : rewrite mode expression = .error cause) :
    (∃ reference, expression = .column reference ∧ Sql.checkName reference.name = .error cause) ∨
      ∃ operand ∈ expression.operands, rewrite mode operand = .error cause := by
  -- Both junctions fail with one of their terms, or not at all.
  have junction {terms : List Expression} {keyword : String}
      (h : (if terms.length < 2 then .ok none
        else do return (← rewriteTerms mode terms).map (Fragment.join keyword)) =
          (.error cause : Except Error (Option Fragment))) :
      ∃ term ∈ terms, rewrite mode term = .error cause := by
    split at h
    · cases h
    · rcases bind_eq_error.mp h with failed | ⟨_, -, h⟩
      · exact rewriteTerms_error failed
      · cases h
  cases expression with
  | column reference =>
    rw [rewrite] at h
    rcases bind_eq_error.mp h with failed | ⟨_, -, h⟩
    · rcases bind_eq_error.mp failed with failed | ⟨_, -, h⟩
      · exact .inl ⟨reference, rfl, failed⟩
      · cases h
    · cases h
  | constant type value =>
    rw [rewrite] at h
    split at h <;> cases h
  | comparison operator left right =>
    rw [rewrite] at h
    split at h
    · rcases bind_eq_error.mp h with failed | ⟨_ | first, -, h⟩
      · exact .inr ⟨left, by simp [Expression.operands], failed⟩
      · cases h
      · rcases bind_eq_error.mp h with failed | ⟨_ | second, -, h⟩
        · exact .inr ⟨right, by simp [Expression.operands], failed⟩
        · cases h
        · cases h
    · cases h
  | conjunction terms | disjunction terms =>
    rw [rewrite] at h
    exact .inr (junction h)

/-- An error is that of the name of a column. -/
theorem error_of_rewrite (h : rewrite mode expression = .error cause) :
    ∃ reference, .column reference ∈ expression.parts ∧ Sql.checkName reference.name = .error cause := by
  induction expression using byOperands with
  | inherits expression each =>
    rcases rewrite_error h with ⟨reference, rfl, failed⟩ | ⟨operand, direct, failed⟩
    · exact ⟨reference, Expression.mem_parts_self _, failed⟩
    · obtain ⟨reference, within, failed⟩ := each operand direct failed
      exact ⟨reference, Expression.mem_parts.mpr (.inr ⟨operand, direct, within⟩), failed⟩

/-- An expression is rewritten as a whole or not at all: it is when each part has a rule, and then each part is
by itself. The order of terms changes neither that nor the parameters, but for their order. What is not
rewritten has no fragment, or a column with a name that is refused. -/
theorem rewrite_whole_or_none (mode : Mode) (expression : Expression) :
    (∀ other, expression.Rearranged other →
      (Converts mode expression ↔ Converts mode other) ∧
      ∀ fragment otherFragment, rewrite mode expression = .ok (some fragment) →
        rewrite mode other = .ok (some otherFragment) →
        fragment.parameters.Perm otherFragment.parameters) ∧
    (Converts mode expression ↔
      ∀ part ∈ expression.parts, Converts mode part ∧ part.HasRule) ∧
    ((∀ part ∈ expression.parts, part.HasRule) → Converts mode expression) ∧
    (¬Converts mode expression → rewrite mode expression = .ok none ∨
      ∃ reference fault, .column reference ∈ expression.parts ∧
        Sql.checkName reference.name = .error (.invalidValue fault) ∧
        rewrite mode expression = .error (.invalidValue fault)) := by
  refine ⟨fun other rearranged => ⟨?_, fun fragment otherFragment done otherDone => ?_⟩, ?_,
    converts_iff_supported.mpr, fun refused => ?_⟩
  · rw [converts_iff_supported, converts_iff_supported, rearranged.supported_iff]
  · rw [parameters_of_rewrite done, parameters_of_rewrite otherDone]
    exact rearranged.constants_perm
  · constructor
    · intro converts part within
      have rules := converts_iff_supported.mp converts
      refine ⟨converts_iff_supported.mpr fun inner deeper => ?_, rules part within⟩
      exact rules inner (Expression.mem_parts_trans within deeper)
    · intro parts
      exact (parts expression (Expression.mem_parts_self expression)).1
  · cases result : rewrite mode expression with
    | ok made =>
      cases made with
      | none => exact .inl rfl
      | some fragment => exact absurd ⟨fragment, result⟩ refused
    | error cause =>
      obtain ⟨reference, within, failed⟩ := error_of_rewrite result
      obtain ⟨fault, rfl⟩ := Sql.checkName_error failed
      exact .inr ⟨reference, fault, within, failed, rfl⟩

/-- Terms swapped at two depths, and a column without a name beside a comparison that would be rewritten. -/
theorem rewrite_whole_or_none_swapped :
    let column (name : String) : Expression := .column ⟨name, .bigInt, .ofType .bigInt "BIGINT"⟩
    let below := Expression.comparison .less (column "a") (.constant .bigInt (.long 1))
    let above := Expression.comparison .greater (column "b") (.constant .integer (.long 2))
    let same := Expression.comparison .equal (.constant .bigInt (.long 3)) (column "c")
    let expression := Expression.disjunction [.conjunction [below, above], same]
    let swapped := Expression.disjunction [same, .conjunction [above, below]]
    let unnamed := Expression.conjunction [below, column ""]
    (expression.Rearranged swapped ∧ ∃ fragment swappedFragment,
      rewrite .mysql expression = .ok (some fragment) ∧
      rewrite .mysql swapped = .ok (some swappedFragment) ∧
      fragment.sql ≠ swappedFragment.sql ∧
      fragment.parameters.Perm swappedFragment.parameters) ∧
    ¬Converts .mysql unnamed ∧ ∃ fault, rewrite .mysql unnamed = .error (.invalidValue fault) := by
  intro column below above same expression swapped unnamed
  have inside : (Expression.conjunction [below, above]).Rearranged (.conjunction [above, below]) :=
    .permuted .and (.swap ..)
  have rearranged : expression.Rearranged swapped :=
    (Expression.Rearranged.term .or [] [same] inside).trans (.permuted .or (.swap ..))
  have refused : ¬Converts .mysql unnamed := by
    rintro ⟨_, made⟩
    cases made
  refine ⟨⟨rearranged, _, _, rfl, rfl, by decide, ?_⟩, refused, ?_⟩
  · exact ((rewrite_whole_or_none .mysql expression).1 swapped rearranged).2 _ _ rfl rfl
  · rcases (rewrite_whole_or_none .mysql unnamed).2.2.2 refused with none | ⟨_, fault, -, -, failed⟩
    · cases none
    · exact ⟨fault, failed⟩

end Predicate

end TypeBridge
