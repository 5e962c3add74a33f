import Mathlib.Data.Int.Order.Basic
import TypeBridge.Connector.Basic
import TypeBridge.Proofs.Sql.OrderKeys
import TypeBridge.Proofs.Sql.RowOrder

/-!
Queries with an order and a limit. The keys that are written order the rows as the items ask, and the backend
reads them back as they were written. A request without items is accepted too, and that is the only one
whose order cannot be read.
-/
namespace TypeBridge

open Sql (OrderKey Token)

universe u

inductive SortOrder.Directs : SortOrder → (ascending : Bool) → Prop where
  | ascNullsFirst : Directs .ascNullsFirst true
  | ascNullsLast : Directs .ascNullsLast true
  | descNullsFirst : Directs .descNullsFirst false
  | descNullsLast : Directs .descNullsLast false

/-- Keys for some items in turn: each column once by value, in its direction, and before that once more at
most, by its null test. -/
inductive Sql.KeysFor : List SortItem → List OrderKey → Prop where
  | nil : KeysFor [] []
  | value (item : SortItem) {items : List SortItem} {keys : List OrderKey} {ascending : Bool}
      (directs : item.order.Directs ascending) (rest : KeysFor items keys) :
      KeysFor (item :: items) (⟨item.column, false, ascending⟩ :: keys)
  | tested (item : SortItem) (testAscending : Bool) {items : List SortItem} {keys : List OrderKey}
      {ascending : Bool} (directs : item.order.Directs ascending) (rest : KeysFor items keys) :
      KeysFor (item :: items)
        (⟨item.column, true, testAscending⟩ :: ⟨item.column, false, ascending⟩ :: keys)

theorem Sql.keysFor_orderKeys (items : List SortItem) : KeysFor items (items.flatMap orderKeys) := by
  induction items with
  | nil => exact .nil
  | cons item items ih =>
    obtain ⟨column, type, order⟩ := item
    cases order with
    | ascNullsFirst => exact .value _ .ascNullsFirst ih
    | ascNullsLast => exact .tested _ _ .ascNullsLast ih
    | descNullsFirst => exact .tested _ _ .descNullsFirst ih
    | descNullsLast => exact .value _ .descNullsLast ih

theorem Sql.keys_eq_nil {items : List SortItem} : items.flatMap orderKeys = [] ↔ items = [] := by
  rw [List.flatMap_eq_nil_iff]
  constructor
  · intro none
    cases items with
    | nil => rfl
    | cons item items =>
      have empty := none item List.mem_cons_self
      unfold orderKeys at empty
      cases order : item.order <;> rw [order] at empty <;> cases empty
  · rintro rfl
    simp

namespace Connector

variable {connector : Connector} {sql text : String} {items : List SortItem} {count : Nat}

theorem topN_eq_ok : connector.topN sql items count = .ok text ↔
    Sql.supportsTopN connector.mode items = true ∧
      (∀ item ∈ items, Sql.IsName item.column) ∧
        text = Sql.orderedText sql (items.flatMap Sql.orderKeys) count := by
  unfold topN
  cases connector.mode with
  | mysql =>
    rw [← Sql.topN_eq_ok]
    cases supported : Sql.supportsTopN .mysql items <;> simp
  | oracle => simp [Sql.topN, Sql.supportsTopN]

/-- The keys of some items decide between any two rows as the items do in turn. They are what the backend
reads in the order that is written for the items. A request is answered just where the mode supports it
and all of its columns have names that can be written, so never in Oracle mode, and then with that order. -/
theorem topN_orders_as_requested (connector : Connector) (sql : String) (items : List SortItem)
    (count : Nat) :
    (∀ {Value : String → Type u} [∀ column, LinearOrder (Value column)] (row other : Row Value),
      firstDifference ((items.flatMap Sql.orderKeys).map (·.compare row other)) =
        firstDifference (items.map (·.compare row other))) ∧
    (items ≠ [] → (∀ item ∈ items, Sql.IsName item.column) → ∃ order tokens,
      Sql.topN .mysql sql items count =
        .ok (sql ++ " ORDER BY " ++ order ++ " LIMIT " ++ Text.numberText count) ∧
      Sql.lex .mysql order = some tokens ∧
      Sql.readOrder? tokens = some (items.flatMap Sql.orderKeys)) ∧
    ((∃ text, connector.topN sql items count = .ok text) ↔
      Sql.supportsTopN connector.mode items = true ∧ ∀ item ∈ items, Sql.IsName item.column) ∧
    (∀ text, connector.topN sql items count = .ok text → Sql.topN .mysql sql items count = .ok text) ∧
    (connector.mode = .oracle → connector.topN sql items count = .error (.notSupported .topN)) := by
  refine ⟨Sql.firstDifference_keys items, fun present named => ?emitted, ?answered, ?same, fun oracle => ?_⟩
  case emitted =>
    refine ⟨_, Sql.listedTokens (items.flatMap Sql.orderKeys), Sql.topN_eq_ok.mpr ⟨named, rfl⟩, ?_, ?_⟩
    · exact Sql.lex_eq_some.mpr (Sql.lexes_listedKeys .mysql _)
    · exact Sql.readOrder?_listed (mt Sql.keys_eq_nil.mp present)
  case answered =>
    simp only [topN_eq_ok]
    constructor
    · rintro ⟨_, supported, named, -⟩
      exact ⟨supported, named⟩
    · rintro ⟨supported, named⟩
      exact ⟨_, supported, named, rfl⟩
  case same =>
    intro text answered
    obtain ⟨-, named, written⟩ := topN_eq_ok.mp answered
    exact Sql.topN_eq_ok.mpr ⟨named, written⟩
  · unfold topN
    rw [oracle]
    rfl

/-- With nulls first, descending, two rows without a rank are told apart by their numbers, ascending; the one
that has no number either comes last. Of two rows with ranks the higher one comes first. -/
theorem topN_orders_as_requested_ties :
    let items : List SortItem := [⟨"rank", .integer, .descNullsFirst⟩, ⟨"no", .bigInt, .ascNullsLast⟩]
    let row : Row fun _ => Int := fun column => if column = "no" then some 7 else none
    let unnumbered : Row fun _ => Int := fun _ => none
    let ranked (rank : Int) : Row fun _ => Int := fun column => if column = "rank" then some rank else none
    let keys := items.flatMap Sql.orderKeys
    (firstDifference (items.map (·.compare row unnumbered)) = .lt ∧
      firstDifference (keys.map (·.compare row unnumbered)) = .lt) ∧
    (firstDifference (items.map (·.compare (ranked 5) (ranked 3))) = .lt ∧
      firstDifference (keys.map (·.compare (ranked 5) (ranked 3))) = .lt) ∧
    (firstDifference (items.map (·.compare (ranked 5) row)) = .gt ∧
      firstDifference (keys.map (·.compare (ranked 5) row)) = .gt) ∧
    (∃ order tokens, Sql.topN .mysql "SELECT * FROM t" items 3 =
        .ok ("SELECT * FROM t" ++ " ORDER BY " ++ order ++ " LIMIT " ++ Text.numberText 3) ∧
      Sql.lex .mysql order = some tokens ∧ Sql.readOrder? tokens = some keys) ∧
    (∃ text, (ofMode .mysql).topN "SELECT * FROM t" items 3 = .ok text ∧
      Sql.topN .mysql "SELECT * FROM t" items 3 = .ok text) ∧
    (ofMode .oracle).topN "SELECT * FROM t" items 3 = .error (.notSupported .topN) := by
  intro items row unnumbered ranked keys
  have named : ∀ item ∈ items, Sql.IsName item.column := by decide
  obtain ⟨compares, emits, answers, same, -⟩ :=
    topN_orders_as_requested (ofMode .mysql) "SELECT * FROM t" items 3
  have unranked : firstDifference (items.map (·.compare row unnumbered)) = .lt := by decide
  have higher : firstDifference (items.map (·.compare (ranked 5) (ranked 3))) = .lt := by decide
  have nullFirst : firstDifference (items.map (·.compare (ranked 5) row)) = .gt := by decide
  obtain ⟨text, answered⟩ := answers.mpr ⟨rfl, named⟩
  refine ⟨⟨unranked, (compares _ _).trans unranked⟩, ⟨higher, (compares _ _).trans higher⟩,
    ⟨nullFirst, (compares _ _).trans nullFirst⟩, emits (List.cons_ne_nil _ _) named,
    ⟨text, answered, same text answered⟩, ?_⟩
  exact (topN_orders_as_requested.{0} (ofMode .oracle) "SELECT * FROM t" items 3).2.2.2.2 rfl

/-- The order of an accepted request is read by itself, whatever its query is. It has the keys of the items,
unless there are no items: then nothing that the backend reads as an order stands before the limit. -/
theorem topN_readable_iff (accepted : Sql.supportsTopN connector.mode items = true)
    (named : ∀ item ∈ items, Sql.IsName item.column) (sql : String) (count : Nat) :
    ∃ keys order tokens, Sql.KeysFor items keys ∧
      order = ", ".intercalate (keys.map (·.written .mysql)) ∧
      connector.topN sql items count =
        .ok (sql ++ " ORDER BY " ++ order ++ " LIMIT " ++ Text.numberText count) ∧
      Sql.lex .mysql order = some tokens ∧
      (∀ query, Sql.lex .mysql sql = some query →
        Sql.lex .mysql (sql ++ " ORDER BY " ++ order ++ " LIMIT " ++ Text.numberText count) =
          some (query ++ [.word "ORDER", .word "BY"] ++ tokens ++
            [.word "LIMIT", .word (Text.numberText count)])) ∧
      ((∃ read, Sql.readOrder? tokens = some read) ↔ items ≠ []) ∧
      ∀ read, Sql.readOrder? tokens = some read → read = keys := by
  refine ⟨items.flatMap Sql.orderKeys, _, Sql.listedTokens (items.flatMap Sql.orderKeys),
    Sql.keysFor_orderKeys items, rfl, topN_eq_ok.mpr ⟨accepted, named, rfl⟩,
    Sql.lex_eq_some.mpr (Sql.lexes_listedKeys .mysql _), fun query lexed => ?_, ?_⟩
  · exact Sql.lex_eq_some.mpr (Sql.lexes_orderedText (Sql.lex_eq_some.mp lexed) _ count)
  · by_cases present : items = []
    · subst present
      have unread : Sql.readOrder? (Sql.listedTokens []) = none := by decide
      simp [unread]
    · have read := Sql.readOrder?_listed (mt Sql.keys_eq_nil.mp present)
      simp [read, present]

/-- Columns whose names look like the next key, or like a null test. -/
theorem topN_readable_iff_keysInNames :
    let items : List SortItem :=
      [⟨"a`, `b` DESC", .integer, .ascNullsLast⟩, ⟨"ISNULL(c) ASC", .date, .descNullsLast⟩]
    (ofMode .mysql).topN "SELECT * FROM t" items 5 = .ok ("SELECT * FROM t ORDER BY " ++
      "ISNULL(`a``, ``b`` DESC`) ASC, `a``, ``b`` DESC` ASC, `ISNULL(c) ASC` DESC LIMIT 5") ∧
    ∃ keys order tokens, Sql.KeysFor items keys ∧
      (ofMode .mysql).topN "SELECT * FROM t" items 5 =
        .ok ("SELECT * FROM t" ++ " ORDER BY " ++ order ++ " LIMIT " ++ Text.numberText 5) ∧
      Sql.lex .mysql order = some tokens ∧ Sql.readOrder? tokens = some keys := by
  intro items
  have named : ∀ item ∈ items, Sql.IsName item.column := by decide
  obtain ⟨keys, order, tokens, inTurn, -, made, lexed, -, readable, same⟩ :=
    @topN_readable_iff (ofMode .mysql) items rfl named "SELECT * FROM t" 5
  obtain ⟨read, found⟩ := readable.mpr (List.cons_ne_nil _ _)
  obtain rfl := same read found
  exact ⟨rfl, read, order, tokens, inTurn, made, lexed, found⟩

/-- Without items the limit stands where the first key should. -/
theorem noItems_unreadable :
    Sql.supportsTopN .mysql [] = true ∧
      (ofMode .mysql).topN "SELECT a FROM t" [] 5 = .ok "SELECT a FROM t ORDER BY  LIMIT 5" ∧
      Sql.lex .mysql "SELECT a FROM t ORDER BY  LIMIT 5" = some [.word "SELECT", .word "a", .word "FROM",
        .word "t", .word "ORDER", .word "BY", .word "LIMIT", .word "5"] ∧
      Sql.readOrder? [] = none := by
  exact ⟨rfl, rfl, by decide, by decide⟩

end Connector

end TypeBridge
