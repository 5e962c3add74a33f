import TypeBridge.Connector.Connection

/-!
The statements that an operation runs. Whatever the connection answers, a property that holds of each
statement in the steps of an operation holds of each statement of the whole.
-/
namespace TypeBridge.Operation

variable {α β : Type} {allowed : String → Prop}

/-- Every statement that is run, on any connection and after any calls, is allowed. -/
def Executes (allowed : String → Prop) (operation : Operation α) : Prop :=
  ∀ connection before sql, Call.execute sql ∈ (operation connection before).2 → allowed sql

theorem executes_ofExcept (result : Except Error α) : Executes allowed (ofExcept result) := by
  intro connection before sql member
  cases member

theorem executes_fail (error : Error) : Executes allowed (fail error : Operation α) :=
  executes_ofExcept _

theorem executes_execute {sql : String} (fits : allowed sql) : Executes allowed (execute sql) := by
  intro connection before other member
  cases List.mem_singleton.mp member
  exact fits

theorem executes_getTables (filter : TableFilter) : Executes allowed (getTables filter) := by
  intro connection before sql member
  cases List.mem_singleton.mp member

theorem executes_escape : Executes allowed escape := by
  intro connection before sql member
  cases member

/-- The next step matters for the values that the first can give. -/
theorem executes_bind {first : Operation α} {next : α → Operation β} (former : Executes allowed first)
    (later : ∀ value, (∃ connection before, (first connection before).1 = .ok value) →
      Executes allowed (next value)) : Executes allowed (first >>= next) := by
  intro connection before sql member
  change Call.execute sql ∈ (andThen first next connection before).2 at member
  unfold andThen at member
  cases done : first connection before with
  | mk result calls =>
    rw [done] at member
    cases result with
    | error =>
      apply former connection before sql
      rw [done]
      exact member
    | ok value =>
      rcases List.mem_append.mp member with early | late
      · apply former connection before sql
        rw [done]
        exact early
      · exact later value ⟨connection, before, by rw [done]⟩ connection (before ++ calls) sql late

theorem executes_lift {result : Except Error α} {next : α → Operation β}
    (later : ∀ value, result = .ok value → Executes allowed (next value)) :
    Executes allowed (liftM result >>= next) := by
  change Executes allowed (ofExcept result >>= next)
  refine executes_bind (executes_ofExcept result) ?_
  rintro value ⟨_, _, given⟩
  exact later value given

end TypeBridge.Operation
