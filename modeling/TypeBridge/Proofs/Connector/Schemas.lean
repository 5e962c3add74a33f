import TypeBridge.Connector.Catalog

/-!
Schemas as they are listed. A schema that belongs to the backend itself is left out, in whatever letter case
it is reported, and so is a name that was listed before; the rest stands in the order in which it was
reported.
-/
namespace TypeBridge

def Mode.Reserves : Mode → String → Prop
  | mysql, name => Text.lowered name ∈ ["information_schema", "mysql", "oceanbase"]
  | oracle, name => Text.uppered name ∈ ["SYS", "LBACSYS", "ORAAUDITOR"]

instance : (mode : Mode) → (name : String) → Decidable (mode.Reserves name)
  | .mysql, name => inferInstanceAs (Decidable (Text.lowered name ∈ _))
  | .oracle, name => inferInstanceAs (Decidable (Text.uppered name ∈ _))

/-- What a connection reports as the names of schemas; for one mode these are its catalogs. -/
def Connection.schemaNames (connection : Connection) (before : List Call) :
    Mode → Except Error (List String)
  | .mysql => connection.listCatalogs before
  | .oracle => connection.listSchemas before

namespace Connector

variable {connector : Connector} {connection : Connection} {before : List Call}
  {seen names : List String} {name : String}

theorem mem_distinctAfter : name ∈ distinctAfter seen names ↔ name ∈ names ∧ name ∉ seen := by
  induction names generalizing seen with
  | nil => simp [distinctAfter]
  | cons first rest ih =>
    unfold distinctAfter
    split
    next repeated =>
      have present : first ∈ seen := List.contains_iff_mem.mp repeated
      rw [ih, List.mem_cons]
      refine and_congr_left fun fresh => (or_iff_right ?_).symm
      exact fun same => fresh (same ▸ present)
    next absent =>
      have fresh : first ∉ seen := mt List.contains_iff_mem.mpr absent
      rw [List.mem_cons, List.mem_cons, ih, List.mem_cons, not_or]
      constructor
      · rintro (rfl | ⟨member, -, unseen⟩)
        · exact ⟨.inl rfl, fresh⟩
        · exact ⟨.inr member, unseen⟩
      · rintro ⟨member, unseen⟩
        by_cases same : name = first
        · exact .inl same
        · exact .inr ⟨member.resolve_left same, same, unseen⟩

theorem nodup_distinctAfter (seen names : List String) : (distinctAfter seen names).Nodup := by
  induction names generalizing seen with
  | nil => exact List.nodup_nil
  | cons first rest ih =>
    unfold distinctAfter
    split
    · exact ih seen
    · have once : first ∉ distinctAfter (first :: seen) rest :=
        fun again => (mem_distinctAfter.mp again).2 List.mem_cons_self
      exact List.nodup_cons.mpr ⟨once, ih _⟩

theorem distinctAfter_self (distinct : names.Nodup) (fresh : ∀ name ∈ names, name ∉ seen) :
    distinctAfter seen names = names := by
  induction names generalizing seen with
  | nil => rfl
  | cons first rest ih =>
    obtain ⟨once, distinct⟩ := List.nodup_cons.mp distinct
    obtain ⟨new, fresh⟩ := List.forall_mem_cons.mp fresh
    unfold distinctAfter
    rw [if_neg (mt List.contains_iff_mem.mp new), ih distinct]
    intro name member again
    rcases List.mem_cons.mp again with rfl | seen
    · exact once member
    · exact fresh name member seen

/-- The names stand as they first occur in a list. -/
def InOrderOf (names listed : List String) : Prop :=
  listed.Pairwise fun former latter => names.idxOf former < names.idxOf latter

theorem idxOf_cons_of_mem {listed : List String} {first : String} (unlisted : first ∉ listed)
    (member : name ∈ listed) : (first :: names).idxOf name = names.idxOf name + 1 := by
  have other : (first == name) = false := beq_false_of_ne fun same => unlisted (same ▸ member)
  rw [List.idxOf_cons, other, cond_false]

theorem InOrderOf.cons {listed : List String} (order : InOrderOf names listed) {first : String}
    (unlisted : first ∉ listed) : InOrderOf (first :: names) listed := by
  refine List.Pairwise.imp_of_mem (fun {former latter} among amid earlier => ?_) order
  rw [idxOf_cons_of_mem unlisted among, idxOf_cons_of_mem unlisted amid]
  exact Nat.succ_lt_succ earlier

theorem inOrderOf_distinctAfter (shown : String → Bool) (seen names : List String) :
    InOrderOf names (distinctAfter seen (names.filter shown)) := by
  induction names generalizing seen with
  | nil => exact List.Pairwise.nil
  | cons first rest ih =>
    rw [List.filter_cons]
    split
    next =>
      unfold distinctAfter
      split
      next repeated =>
        refine (ih seen).cons fun again => (mem_distinctAfter.mp again).2 ?_
        exact List.contains_iff_mem.mp repeated
      next =>
        have once : first ∉ distinctAfter (first :: seen) (rest.filter shown) :=
          fun again => (mem_distinctAfter.mp again).2 List.mem_cons_self
        refine List.pairwise_cons.mpr ⟨fun later member => ?_, (ih _).cons once⟩
        rw [List.idxOf_cons_self, idxOf_cons_of_mem once member]
        exact Nat.succ_pos _
    next hidden =>
      refine (ih seen).cons fun again => hidden ?_
      exact (List.mem_filter.mp (mem_distinctAfter.mp again).1).2

theorem showsSchema_eq_true {mode : Mode} : Sql.showsSchema mode name = true ↔ ¬mode.Reserves name := by
  have listed (names : List String) (name : String) : (!names.contains name) = true ↔ name ∉ names := by
    simp
  cases mode <;> exact listed _ _

theorem mem_visibleSchemas :
    name ∈ connector.visibleSchemas names ↔ name ∈ names ∧ ¬connector.mode.Reserves name := by
  rw [visibleSchemas, mem_distinctAfter, List.mem_filter, showsSchema_eq_true]
  exact and_iff_left List.not_mem_nil

theorem visibleSchemas_self (distinct : names.Nodup)
    (plain : ∀ name ∈ names, ¬connector.mode.Reserves name) : connector.visibleSchemas names = names := by
  rw [visibleSchemas, List.filter_eq_self.mpr fun name member => showsSchema_eq_true.mpr (plain name member)]
  exact distinctAfter_self distinct fun _ _ => List.not_mem_nil

theorem listSchemas_of_names (answered : connection.schemaNames before connector.mode = .ok names) :
    (connector.listSchemas connection before).1 = .ok (connector.visibleSchemas names) := by
  have each (list : Operation (List String)) (reported : (list connection before).1 = .ok names) :
      ((list >>= fun names => pure (connector.visibleSchemas names)) connection before).1 =
        .ok (connector.visibleSchemas names) := by
    change (Operation.andThen list _ connection before).1 = _
    unfold Operation.andThen
    cases ran : list connection before with
    | mk result calls =>
      rw [ran] at reported
      cases reported
      rfl
  unfold listSchemas
  cases mode : connector.mode with
  | mysql =>
    rw [mode] at answered
    apply each
    have catalogs : connection.listCatalogs before = .ok names := answered
    simp only [Operation.listCatalogs, Operation.call, catalogs]
  | oracle =>
    rw [mode] at answered
    apply each
    have schemas : connection.listSchemas before = .ok names := answered
    simp only [Operation.listSchemas, Operation.call, schemas]

/-- A listing has each name that the connection reports once, in the order in which the names first occur,
unless the backend reserves it. Listed once more, the names stay as they are. -/
theorem listSchemas_hides_reserved (answered : connection.schemaNames before connector.mode = .ok names) :
    ∃ schemas, (connector.listSchemas connection before).1 = .ok schemas ∧ schemas.Nodup ∧
      (∀ name, name ∈ schemas ↔ name ∈ names ∧ ¬connector.mode.Reserves name) ∧
      InOrderOf names schemas ∧
      ∀ (again : Connection) (later : List Call), again.schemaNames later connector.mode = .ok schemas →
        (connector.listSchemas again later).1 = .ok schemas := by
  refine ⟨_, listSchemas_of_names answered, nodup_distinctAfter _ _, fun _ => mem_visibleSchemas,
    inOrderOf_distinctAfter _ _ _, fun again later reported => ?_⟩
  have plain : ∀ name ∈ connector.visibleSchemas names, ¬connector.mode.Reserves name :=
    fun _ member => (mem_visibleSchemas.mp member).2
  have stays : connector.visibleSchemas (connector.visibleSchemas names) = connector.visibleSchemas names :=
    visibleSchemas_self (nodup_distinctAfter _ _) plain
  rw [listSchemas_of_names reported, stays]

/-- Case counts for names of schemas, but not for what is reserved; a long s is a small form of S. -/
theorem listSchemas_hides_reserved_longS :
    let connection (names : List String) : Connection :=
      ⟨"/", fun _ => .ok [], fun _ => .ok names, fun _ _ => .ok [], fun _ _ => .ok 0⟩
    let names := ["b", "lbacsys", "a", "b", "ſys", "A", "a"]
    let oracle := ofMode .oracle
    (connection names).schemaNames [] oracle.mode = .ok names ∧
      oracle.mode.Reserves "ſys" ∧
      (oracle.listSchemas (connection names) []).1 = .ok ["b", "a", "A"] ∧
      InOrderOf names ["b", "a", "A"] ∧
      (connection ["b", "a", "A"]).schemaNames [.listSchemas] oracle.mode = .ok ["b", "a", "A"] ∧
      (oracle.listSchemas (connection ["b", "a", "A"]) [.listSchemas]).1 = .ok ["b", "a", "A"] := by
  intro connection names oracle
  have answered : (connection names).schemaNames [] oracle.mode = .ok names := rfl
  have listed : (oracle.listSchemas (connection names) []).1 = .ok ["b", "a", "A"] := by rfl
  obtain ⟨schemas, same, -, -, order, again⟩ := listSchemas_hides_reserved answered
  obtain rfl : schemas = ["b", "a", "A"] := Except.ok.inj (same.symm.trans listed)
  exact ⟨answered, by decide, listed, order, rfl, again _ [.listSchemas] rfl⟩

end Connector

end TypeBridge
