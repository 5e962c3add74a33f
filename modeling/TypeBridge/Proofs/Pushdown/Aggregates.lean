import TypeBridge.Proofs.Column.TypeTokens
import TypeBridge.Proofs.Column.WellFormed
import TypeBridge.Proofs.Pushdown.Rules
import TypeBridge.Pushdown.Aggregate

/-!
Aggregates that the backend computes. The descriptor under which a result is read is one of the rule's own,
or that of an argument; either way the type by which columns with this descriptor are read is the type of the
aggregate.
-/
namespace TypeBridge

/-- The type of a sum: integers add up to the widest one, and other numbers keep their digits after the
point. -/
def LogicalType.summed? : LogicalType → Option LogicalType
  | tinyInt | smallInt | integer | bigInt => some bigInt
  | decimal _ scale => some (decimal maxDecimalPrecision scale)
  | real | double => some double
  | _ => none

theorem LogicalType.isFloating_iff {type : LogicalType} :
    type.isFloating = true ↔ type = .real ∨ type = .double := by
  cases type <;> simp [isFloating]

namespace AggregateFunction

def backendName : AggregateFunction → String
  | count => "count"
  | min => "min"
  | max => "max"
  | sum => "sum"
  | avg => "avg"
  | stddevSamp => "stddev_samp"
  | stddevPop => "stddev_pop"
  | varSamp => "var_samp"
  | varPop => "var_pop"
  | covarSamp => "covar_samp"
  | covarPop => "covar_pop"

theorem sql_eq_backendName (function : AggregateFunction) : function.sql = function.backendName := by
  cases function <;> rfl

/-- Functions of one column whose results have the type of the column, and the types that they take. -/
def Keeps : AggregateFunction → LogicalType → Prop
  | min, type | max, type => ¬type.IsText
  | avg, type | stddevSamp, type | stddevPop, type | varSamp, type | varPop, type =>
    type = .real ∨ type = .double
  | _, _ => False

end AggregateFunction

def Descriptor.ReadAs (descriptor : Descriptor) (mode : Mode) (session : Session)
    (type : LogicalType) : Prop :=
  ∃ mapping, ColumnMapping.resolve mode session [] descriptor = .ok (some mapping) ∧
    mapping.logicalType = type

namespace AggregateCall

open LogicalType (maxDecimalPrecision)
open Predicate (bracketed)
open Sql (Token Lexes LexesApart quoteName)

def types (call : AggregateCall) : List LogicalType := call.arguments.map (·.type)

def resultType? (call : AggregateCall) : Option LogicalType :=
  match call.function, call.types with
  | .count, _ => some .bigInt
  | .sum, [type] => type.summed?
  | _, types => types.head?

/-- The type to which a result is brought back that the backend gives other digits. -/
def castType? (call : AggregateCall) : Option DataType :=
  match call.function, call.types with
  | .avg, [.decimal precision scale] => some (.decimal precision scale)
  | _, _ => none

/-- The function with its arguments under these names; a count without arguments is one of rows. -/
def applied (call : AggregateCall) (names : List String) : String :=
  call.function.backendName ++ "(" ++ (if call.distinct then "DISTINCT " else "") ++
    (if names.isEmpty then "*" else ", ".intercalate names) ++ ")"

def text (call : AggregateCall) (names : List String) : String :=
  match call.castType? with
  | none => call.applied names
  | some type => s!"CAST({call.applied names} AS {type.sql})"

def appliedTokens (call : AggregateCall) : List Token :=
  .word call.function.backendName :: bracketed ((if call.distinct then [.word "DISTINCT"] else []) ++
    if call.arguments.isEmpty then [.symbol '*']
    else [Token.symbol ','].intercalate (call.arguments.map fun column => [.name column.name]))

def tokens (call : AggregateCall) : List Token :=
  match call.castType? with
  | none => call.appliedTokens
  | some type => .word "CAST" :: bracketed (call.appliedTokens ++ .word "AS" :: type.tokens)

variable {mode : Mode} {session : Session} {call : AggregateCall} {expression : AggregateExpression}

inductive Rewrites (mode : Mode) : AggregateCall → AggregateExpression → Prop where
  | rows : Rewrites mode ⟨.count, [], false⟩ ⟨"count(*)", bigIntHandle⟩
  | values {column : ColumnRef} {name : String} (distinct : Bool)
      (quoted : quoteName mode column.name = .ok name) :
      Rewrites mode ⟨.count, [column], distinct⟩
        ⟨(if distinct then "count(DISTINCT " else "count(") ++ name ++ ")", bigIntHandle⟩
  | sum {column : ColumnRef} {handle : Descriptor} {sql : String}
      (summed : sumHandle? column.type = some handle) (applied : apply mode .sum [column] = .ok sql) :
      Rewrites mode ⟨.sum, [column], false⟩ ⟨sql, handle⟩
  | castAverage {column : ColumnRef} {precision scale : Nat} {sql : String}
      (typed : column.type = .decimal precision scale) (applied : apply mode .avg [column] = .ok sql) :
      Rewrites mode ⟨.avg, [column], false⟩
        ⟨s!"CAST({sql} AS {(DataType.decimal precision scale).sql})", column.handle⟩
  | kept {function : AggregateFunction} {column : ColumnRef} {sql : String}
      (keeps : function.Keeps column.type) (applied : apply mode function [column] = .ok sql) :
      Rewrites mode ⟨function, [column], false⟩ ⟨sql, column.handle⟩
  | covariance {function : AggregateFunction} {first second : ColumnRef} {sql : String}
      (covariant : function.isCovariance = true) (left : first.type = .double)
      (right : second.type = .double) (applied : apply mode function [first, second] = .ok sql) :
      Rewrites mode ⟨function, [first, second], false⟩ ⟨sql, first.handle⟩

theorem answer_eq_some {function : AggregateFunction} {columns : List ColumnRef}
    (handle : Descriptor) :
    (do return some ⟨← apply mode function columns, handle⟩) = Except.ok (some expression) ↔
      ∃ sql, apply mode function columns = .ok sql ∧ expression = ⟨sql, handle⟩ := by
  refine bind_eq_ok.trans (exists_congr fun sql => and_congr_right fun _ => ?_)
  constructor
  · intro made
    cases made
    rfl
  · rintro rfl
    rfl

theorem rewrites_of_count {arguments : List ColumnRef} {distinct : Bool}
    (h : rewriteCount mode arguments distinct = .ok (some expression)) :
    Rewrites mode ⟨.count, arguments, distinct⟩ expression := by
  unfold rewriteCount at h
  split at h
  · cases h
    exact .rows
  · obtain ⟨name, quoted, h⟩ := bind_eq_ok.mp h
    cases h
    exact .values _ quoted
  · cases h

theorem rewrites_of_average {column : ColumnRef}
    (h : rewriteAverage mode column = .ok (some expression)) :
    Rewrites mode ⟨.avg, [column], false⟩ expression := by
  unfold rewriteAverage at h
  split at h
  next typed =>
    obtain ⟨sql, applied, rfl⟩ := (answer_eq_some _).mp h
    exact .kept (.inl typed) applied
  next typed =>
    obtain ⟨sql, applied, rfl⟩ := (answer_eq_some _).mp h
    exact .kept (.inr typed) applied
  next typed =>
    obtain ⟨sql, applied, h⟩ := bind_eq_ok.mp h
    cases h
    exact .castAverage typed applied
  · cases h

theorem keeps_of_rule {function : AggregateFunction} {type : LogicalType}
    (rule : (function = .min ∨ function = .max) ∧ !type.isTextual ∨
      function.isStatistical ∧ type.isFloating) : function.Keeps type := by
  obtain ⟨rfl | rfl, untextual⟩ | ⟨statistical, floating⟩ := rule
  · simpa [AggregateFunction.Keeps, ← LogicalType.isTextual_iff] using untextual
  · simpa [AggregateFunction.Keeps, ← LogicalType.isTextual_iff] using untextual
  · cases function with
    | stddevSamp | stddevPop | varSamp | varPop => exact LogicalType.isFloating_iff.mp floating
    | _ => cases statistical

theorem rewrites_of_rewrite (h : call.rewrite mode = .ok (some expression)) :
    Rewrites mode call expression := by
  obtain ⟨function, arguments, distinct⟩ := call
  unfold rewrite at h
  dsimp only at h
  split at h
  · exact rewrites_of_count h
  split at h
  · cases h
  next single =>
    obtain rfl : distinct = false := by simpa using single
    split at h
    · split at h
      next summed =>
        obtain ⟨sql, applied, rfl⟩ := (answer_eq_some _).mp h
        exact .sum summed applied
      · cases h
    · exact rewrites_of_average h
    · split at h
      next keeps =>
        obtain ⟨sql, applied, rfl⟩ := (answer_eq_some _).mp h
        exact .kept (keeps_of_rule keeps) applied
      · cases h
    · split at h
      next covariant =>
        obtain ⟨sql, applied, rfl⟩ := (answer_eq_some _).mp h
        obtain ⟨covariant, left, right⟩ := covariant
        exact .covariance covariant left right applied
      · cases h
    · cases h

theorem rewriteAverage_of_floating {column : ColumnRef} {sql : String}
    (floating : column.type = .real ∨ column.type = .double) (applied : apply mode .avg [column] = .ok sql) :
    rewriteAverage mode column = .ok (some ⟨sql, column.handle⟩) := by
  have done := (answer_eq_some column.handle).mpr ⟨sql, applied, rfl⟩
  unfold rewriteAverage
  rcases floating with typed | typed <;> simpa only [typed] using done

theorem rewrite_of_keeps {function : AggregateFunction} {column : ColumnRef} {sql : String}
    (keeps : function.Keeps column.type) (applied : apply mode function [column] = .ok sql) :
    rewrite mode ⟨function, [column], false⟩ = .ok (some ⟨sql, column.handle⟩) := by
  have done := (answer_eq_some column.handle).mpr ⟨sql, applied, rfl⟩
  have untextual (plain : ¬column.type.IsText) : (!column.type.isTextual) = true := by
    simpa [← LogicalType.isTextual_iff] using plain
  cases function with
  | min => exact (if_pos (.inl ⟨.inl rfl, untextual keeps⟩)).trans done
  | max => exact (if_pos (.inl ⟨.inr rfl, untextual keeps⟩)).trans done
  | avg => exact rewriteAverage_of_floating keeps applied
  | stddevSamp | stddevPop | varSamp | varPop =>
    exact (if_pos (.inr ⟨rfl, LogicalType.isFloating_iff.mpr keeps⟩)).trans done
  | count | sum | covarSamp | covarPop => exact keeps.elim

/-- A call is rewritten as the rules say, and just where one of them covers it. -/
theorem rewrite_eq_some : call.rewrite mode = .ok (some expression) ↔ Rewrites mode call expression := by
  refine ⟨rewrites_of_rewrite, fun rewrites => ?_⟩
  cases rewrites with
  | rows => rfl
  | values distinct quoted => exact bind_eq_ok.mpr ⟨_, quoted, rfl⟩
  | sum summed applied =>
    simp only [rewrite, summed]
    exact (answer_eq_some _).mpr ⟨_, applied, rfl⟩
  | castAverage typed applied =>
    simp only [rewrite, rewriteAverage, typed]
    exact bind_eq_ok.mpr ⟨_, applied, rfl⟩
  | kept keeps applied => exact rewrite_of_keeps keeps applied
  | @covariance function first second sql covariant left right applied =>
    have done := (answer_eq_some first.handle).mpr ⟨sql, applied, rfl⟩
    cases function with
    | covarSamp | covarPop => exact (if_pos ⟨rfl, left, right⟩).trans done
    | _ => cases covariant

theorem readAs_bigInt (mode : Mode) (session : Session) : bigIntHandle.ReadAs mode session .bigInt :=
  ⟨_, rfl, rfl⟩

theorem readAs_double (mode : Mode) (session : Session) : doubleHandle.ReadAs mode session .double :=
  ⟨_, rfl, rfl⟩

theorem signedWord_of_le {value : Nat} (known : value ≤ maxDecimalPrecision) :
    signedWord value = value := by
  have small : value < 39 := Nat.lt_succ_of_le known
  unfold signedWord
  have bound : twoTo 32 = 4294967296 := by decide
  rw [bound, Int.bmod_eq_of_le (by omega) (by omega)]

theorem resolve_decimalHandle (mode : Mode) (session : Session) {scale : Nat}
    (known : scale ≤ maxDecimalPrecision) :
    ColumnMapping.resolve mode session [] (decimalHandle maxDecimalPrecision scale) =
      .ok (some (.ofDecimal maxDecimalPrecision scale none)) := by
  have size : (decimalHandle maxDecimalPrecision scale).columnSize = some (maxDecimalPrecision : Int) :=
    congrArg some (signedWord_of_le (Nat.le_refl _))
  have digits : (decimalHandle maxDecimalPrecision scale).decimalDigits = some (scale : Int) :=
    congrArg some (signedWord_of_le known)
  have numeric (size digits : Int) :
      let descriptor := ((Descriptor.ofType .numeric "decimal").withSize size).withDigits digits
      ColumnMapping.resolve mode session [] descriptor = ColumnMapping.ofNumeric session descriptor := rfl
  refine (numeric _ _).trans ?_
  exact ColumnMapping.ofNumeric_declared session size digits (by decide) (Nat.le_refl _) known

theorem readAs_decimal (mode : Mode) (session : Session) {scale : Nat}
    (known : scale ≤ maxDecimalPrecision) :
    (decimalHandle maxDecimalPrecision scale).ReadAs mode session
      (.decimal maxDecimalPrecision scale) :=
  ⟨_, resolve_decimalHandle mode session known, rfl⟩

theorem scale_of_readAs {descriptor : Descriptor} {precision scale : Nat}
    (known : session.defaultScale ≤ maxDecimalPrecision)
    (read : descriptor.ReadAs mode session (.decimal precision scale)) : scale ≤ maxDecimalPrecision := by
  obtain ⟨mapping, resolved, typed⟩ := read
  have valid := ColumnMapping.valid_of_family known (ColumnMapping.family_of_resolve resolved)
  rw [typed] at valid
  obtain ⟨-, small, fits⟩ := valid
  exact Nat.le_trans fits small

theorem readAs_sum {descriptor handle : Descriptor} {type : LogicalType}
    (known : session.defaultScale ≤ maxDecimalPrecision)
    (coherent : descriptor.ReadAs mode session type) (summed : sumHandle? type = some handle) :
    ∃ total, type.summed? = some total ∧ handle.ReadAs mode session total := by
  cases type with
  | decimal precision scale =>
    cases summed
    exact ⟨_, rfl, readAs_decimal mode session (scale_of_readAs known coherent)⟩
  | tinyInt | smallInt | integer | bigInt =>
    cases summed
    exact ⟨_, rfl, readAs_bigInt mode session⟩
  | real | double =>
    cases summed
    exact ⟨_, rfl, readAs_double mode session⟩
  | _ => cases summed

theorem readAs_result (known : session.defaultScale ≤ maxDecimalPrecision)
    (coherent : ∀ column ∈ call.arguments, column.handle.ReadAs mode session column.type)
    (rewrites : Rewrites mode call expression) :
    ∃ type, call.resultType? = some type ∧ expression.resultType.ReadAs mode session type := by
  cases rewrites with
  | rows | values => exact ⟨_, rfl, readAs_bigInt mode session⟩
  | sum summed => exact readAs_sum known (coherent _ (List.mem_singleton_self _)) summed
  | castAverage typed => exact ⟨_, rfl, coherent _ (List.mem_singleton_self _)⟩
  | @kept function column sql keeps =>
    refine ⟨column.type, ?_, coherent _ (List.mem_singleton_self _)⟩
    cases function with
    | count | sum | covarSamp | covarPop => exact keeps.elim
    | _ => rfl
  | @covariance function first second sql covariant =>
    refine ⟨first.type, ?_, coherent _ List.mem_cons_self⟩
    cases function with
    | covarSamp | covarPop => rfl
    | _ => cases covariant

def quotedNames (mode : Mode) (columns : List ColumnRef) : Except Error (List String) :=
  columns.mapM fun column => quoteName mode column.name

theorem quotedNames_singleton {column : ColumnRef} {name : String}
    (quoted : quoteName mode column.name = .ok name) : quotedNames mode [column] = .ok [name] := by
  unfold quotedNames
  rw [List.mapM_cons, quoted]
  rfl

theorem isEmpty_of_quotedNames {columns : List ColumnRef} {names : List String}
    (quoted : quotedNames mode columns = .ok names) : names.isEmpty = columns.isEmpty := by
  cases columns with
  | nil =>
    cases quoted
    rfl
  | cons column columns =>
    unfold quotedNames at quoted
    rw [List.mapM_cons] at quoted
    obtain ⟨name, -, quoted⟩ := bind_eq_ok.mp quoted
    obtain ⟨rest, -, quoted⟩ := bind_eq_ok.mp quoted
    cases quoted
    rfl

theorem applied_of_apply {function : AggregateFunction} {column : ColumnRef} {columns : List ColumnRef}
    {sql : String} (applied : apply mode function (column :: columns) = .ok sql) :
    ∃ names, quotedNames mode (column :: columns) = .ok names ∧
      sql = (AggregateCall.mk function (column :: columns) false).applied names := by
  obtain ⟨names, quoted, same⟩ := bind_eq_ok.mp applied
  refine ⟨names, quoted, ?_⟩
  cases same
  have listed : ¬names.isEmpty := by
    rw [isEmpty_of_quotedNames quoted]
    exact nofun
  unfold AggregateCall.applied
  rw [if_neg listed, ← AggregateFunction.sql_eq_backendName]
  simp

theorem castType_of_keeps {function : AggregateFunction} {column : ColumnRef}
    (keeps : function.Keeps column.type) : castType? ⟨function, [column], false⟩ = none := by
  unfold castType?
  split
  next precision scale average typed =>
    obtain rfl : function = .avg := average
    obtain typed : column.type = .decimal precision scale := List.singleton_inj.mp typed
    rw [typed] at keeps
    rcases keeps with same | same <;> cases same
  · rfl

theorem text_of_uncast {names : List String} (uncast : call.castType? = none) :
    call.text names = call.applied names := by
  unfold text
  rw [uncast]

theorem text_of_rewrites (rewrites : Rewrites mode call expression) :
    ∃ names, quotedNames mode call.arguments = .ok names ∧ expression.sql = call.text names := by
  cases rewrites with
  | rows => exact ⟨[], rfl, rfl⟩
  | @values column name distinct quoted =>
    have opening : (if distinct then "count(DISTINCT " else "count(") =
        "count" ++ "(" ++ (if distinct then "DISTINCT " else "") := by
      cases distinct <;> rfl
    refine ⟨[name], quotedNames_singleton quoted, ?_⟩
    rw [text_of_uncast rfl]
    dsimp only
    rw [opening]
    simp [applied, AggregateFunction.backendName]
  | sum summed applied => exact applied_of_apply applied
  | @castAverage column precision scale sql typed applied =>
    obtain ⟨names, quoted, rfl⟩ := applied_of_apply applied
    have cast : castType? ⟨.avg, [column], false⟩ = some (.decimal precision scale) := by
      obtain ⟨name, type, handle⟩ := column
      obtain rfl : type = .decimal precision scale := typed
      rfl
    refine ⟨names, quoted, ?_⟩
    unfold text
    rw [cast]
  | kept keeps applied =>
    obtain ⟨names, quoted, rfl⟩ := applied_of_apply applied
    exact ⟨names, quoted, (text_of_uncast (castType_of_keeps keeps)).symm⟩
  | @covariance function first second sql covariant left right applied =>
    obtain ⟨names, quoted, rfl⟩ := applied_of_apply applied
    have uncast : castType? ⟨function, [first, second], false⟩ = none := by
      cases function with
      | covarSamp | covarPop => rfl
      | _ => cases covariant
    exact ⟨names, quoted, (text_of_uncast uncast).symm⟩

theorem lexesApart_function (mode : Mode) (function : AggregateFunction) :
    LexesApart mode (function.backendName.toList ++ ['(']) [.word function.backendName, .symbol '('] := by
  cases function <;> cases mode <;> decide

theorem lexesApart_distinct (mode : Mode) (distinct : Bool) :
    LexesApart mode (if distinct then "DISTINCT " else "").toList
      (if distinct then [.word "DISTINCT"] else []) := by
  cases distinct <;> cases mode <;> decide

theorem lexesApart_operand {columns : List ColumnRef} {names : List String}
    (quoted : quotedNames mode columns = .ok names) :
    LexesApart mode ((if names.isEmpty then "*" else ", ".intercalate names).toList ++ [')'])
      ((if columns.isEmpty then [.symbol '*']
        else [Token.symbol ','].intercalate (columns.map fun column => [.name column.name])) ++
          [.symbol ')']) := by
  rw [isEmpty_of_quotedNames quoted]
  split
  · cases mode <;> decide
  · have each (column : ColumnRef) (name : String) (named : quoteName mode column.name = .ok name) :
        ∃ tokens, (pure [.name column.name] : Except Error (List Token)) = .ok tokens ∧
          Lexes mode name.toList tokens :=
      ⟨_, rfl, Sql.lexes_quoteName named⟩
    obtain ⟨tokens, listed, lexed⟩ := Sql.lexes_listed each quoted
    rw [List.mapM_pure] at listed
    cases listed
    exact lexed

theorem lexesApart_applied {names : List String} (quoted : quotedNames mode call.arguments = .ok names) :
    LexesApart mode (call.applied names).toList call.appliedTokens := by
  have read := ((lexesApart_function mode call.function).append
    (lexesApart_distinct mode call.distinct)).append (lexesApart_operand quoted)
  unfold applied appliedTokens
  simpa [bracketed, Predicate.opening, Predicate.closing] using read

theorem lex_text {names : List String} (quoted : quotedNames mode call.arguments = .ok names) :
    Sql.lex mode (call.text names) = some call.tokens := by
  rw [Sql.lex_eq_some]
  unfold text tokens
  cases call.castType? with
  | none => exact (lexesApart_applied quoted).lexes
  | some type =>
    have opening : LexesApart mode "CAST(".toList [.word "CAST", .symbol '('] := by
      cases mode <;> decide
    have between : LexesApart mode " AS ".toList [.word "AS"] := by cases mode <;> decide
    have head := (opening.append (lexesApart_applied quoted)).append between
    have read := head.append ((DataType.lexes_sql mode type).append_separates (Sql.separates_closing mode))
    simpa [bracketed, Predicate.opening, Predicate.closing] using read.lexes

/-- What holds of a call that is rewritten: the result is read with the type of the aggregate, the text
applies the function to the arguments and to nothing else, text is only counted, and so are distinct
values. -/
structure Answers (mode : Mode) (session : Session) (call : AggregateCall)
    (expression : AggregateExpression) : Prop where
  type : ∃ type, call.resultType? = some type ∧ expression.resultType.ReadAs mode session type
  text : ∃ names, quotedNames mode call.arguments = .ok names ∧ expression.sql = call.text names
  tokens : Sql.lex mode expression.sql = some call.tokens
  textual : ∀ column ∈ call.arguments, column.type.IsText → call.function = .count
  distinct : call.distinct = true → call.function = .count ∧ call.arguments.length = 1

theorem untextual_of_keeps {function : AggregateFunction} {type : LogicalType}
    (keeps : function.Keeps type) : ¬type.IsText := by
  cases function with
  | min | max => exact keeps
  | count | sum | covarSamp | covarPop => exact keeps.elim
  | _ => rcases keeps with rfl | rfl <;> exact nofun

theorem untextual_of_summed {type : LogicalType} {handle : Descriptor}
    (summed : sumHandle? type = some handle) : ¬type.IsText := by
  intro text
  cases text <;> cases summed

theorem untextual_of_rewrites (rewrites : Rewrites mode call expression) :
    call.function = .count ∨ ∀ column ∈ call.arguments, ¬column.type.IsText := by
  have typed {column : ColumnRef} {type : LogicalType} (same : column.type = type)
      (plain : ¬type.IsText) : ¬column.type.IsText := same ▸ plain
  cases rewrites with
  | rows | values => exact .inl rfl
  | sum summed => exact .inr (List.forall_mem_singleton.mpr (untextual_of_summed summed))
  | castAverage decimal => exact .inr (List.forall_mem_singleton.mpr (typed decimal nofun))
  | kept keeps => exact .inr (List.forall_mem_singleton.mpr (untextual_of_keeps keeps))
  | covariance _ left right =>
    refine .inr (List.forall_mem_cons.mpr ⟨typed left nofun, ?_⟩)
    exact List.forall_mem_singleton.mpr (typed right nofun)

theorem counts_of_distinct (rewrites : Rewrites mode call expression) (distinct : call.distinct = true) :
    call.function = .count ∧ call.arguments.length = 1 := by
  cases rewrites with
  | values => exact ⟨rfl, rfl⟩
  | _ => cases distinct

/-- A rewritten call is read back as the aggregate that it is, when its columns are read with the types
that they are given. -/
theorem rewrite_answers (known : session.defaultScale ≤ maxDecimalPrecision)
    (coherent : ∀ column ∈ call.arguments, column.handle.ReadAs mode session column.type)
    (rewritten : call.rewrite mode = .ok (some expression)) : Answers mode session call expression := by
  have rewrites := rewrite_eq_some.mp rewritten
  obtain ⟨names, quoted, text⟩ := text_of_rewrites rewrites
  refine ⟨readAs_result known coherent rewrites, ⟨names, quoted, text⟩, ?_, ?_,
    counts_of_distinct rewrites⟩
  · rw [text]
    exact lex_text quoted
  · intro column member textual
    rcases untextual_of_rewrites rewrites with counts | plain
    · exact counts
    · exact absurd textual (plain column member)

/-- A sum of prices is read with all digits that decimals have, and an average of them is brought back to
their own. -/
theorem rewrite_answers_prices :
    let price : ColumnRef :=
      ⟨"p\"", .decimal 10 2, ((Descriptor.ofType .numeric "NUMBER").withSize 10).withDigits 2⟩
    let weight : ColumnRef := ⟨"w", .double, .ofType .double "DOUBLE"⟩
    let height : ColumnRef := ⟨"h`", .double, .ofType .double "DOUBLE"⟩
    let label : ColumnRef := ⟨"l", .varchar (some 10), (Descriptor.ofType .varchar "VARCHAR").withSize 10⟩
    let answers (mode : Mode) (call : AggregateCall) (sql : String) (result : Descriptor) : Prop :=
      call.rewrite mode = .ok (some ⟨sql, result⟩) ∧ Answers mode .default call ⟨sql, result⟩
    (∀ mode, ∀ column ∈ [price, weight, height, label], column.handle.ReadAs mode .default column.type) ∧
    answers .oracle ⟨.sum, [price], false⟩ "sum(\"p\"\"\")" (decimalHandle 38 2) ∧
    answers .oracle ⟨.avg, [price], false⟩ "CAST(avg(\"p\"\"\") AS decimal(10, 2))" price.handle ∧
    answers .mysql ⟨.avg, [weight], false⟩ "avg(`w`)" weight.handle ∧
    answers .mysql ⟨.min, [price], false⟩ "min(`p\"`)" price.handle ∧
    answers .oracle ⟨.max, [weight], false⟩ "max(\"w\")" weight.handle ∧
    answers .mysql ⟨.stddevSamp, [height], false⟩ "stddev_samp(`h```)" height.handle ∧
    answers .oracle ⟨.varPop, [height], false⟩ "var_pop(\"h`\")" height.handle ∧
    answers .mysql ⟨.covarPop, [weight, height], false⟩ "covar_pop(`w`, `h```)" weight.handle ∧
    answers .oracle ⟨.count, [label], true⟩ "count(DISTINCT \"l\")" bigIntHandle := by
  have answered {columns : List ColumnRef}
      (read : ∀ mode, ∀ column ∈ columns, column.handle.ReadAs mode .default column.type) {mode : Mode}
      {call : AggregateCall} {sql : String} {result : Descriptor} (listed : call.arguments ⊆ columns)
      (rewritten : call.rewrite mode = .ok (some ⟨sql, result⟩)) :
      call.rewrite mode = .ok (some ⟨sql, result⟩) ∧ Answers mode .default call ⟨sql, result⟩ :=
    ⟨rewritten, rewrite_answers (Nat.zero_le _) (fun _ member => read mode _ (listed member)) rewritten⟩
  dsimp only
  refine (fun read => ⟨read, answered read ?_ rfl, answered read ?_ rfl, answered read ?_ rfl,
    answered read ?_ rfl, answered read ?_ rfl, answered read ?_ rfl, answered read ?_ rfl,
    answered read ?_ rfl, answered read ?_ rfl⟩) fun mode => ?columns
  case columns =>
    simp only [List.forall_mem_cons]
    exact ⟨⟨_, rfl, rfl⟩, ⟨_, rfl, rfl⟩, ⟨_, rfl, rfl⟩, ⟨_, rfl, rfl⟩, nofun⟩
  all_goals simp

end AggregateCall

end TypeBridge
