import TypeBridge.Proofs.Json.Grammar

/-!
The canonical form of JSON values. Two values are the same when they agree item by item in arrays, and in
objects key by key in the last value of each key; the canonical form is the one value among all that are
the same whose objects have their keys in increasing order.
-/
namespace TypeBridge.Json

def lastOf? (key : String) : List (String × Json) → Option Json
  | [] => none
  | (other, value) :: rest => (lastOf? key rest).or (if other = key then some value else none)

/-- Each key is less than those after it, so no key is repeated. -/
def Increasing (members : List (String × Json)) : Prop := members.Pairwise fun left right => left.1 < right.1

variable {key other : String} {value : Json} {members rest : List (String × Json)}

theorem mem_of_lastOf? (h : lastOf? key members = some value) : (key, value) ∈ members := by
  induction members with
  | nil => cases h
  | cons member rest ih =>
    rw [lastOf?] at h
    rcases Option.or_eq_some_iff.mp h with later | ⟨-, here⟩
    · exact List.mem_cons_of_mem _ (ih later)
    · split at here
      next same =>
        cases here
        rw [← same]
        exact List.mem_cons_self
      next => cases here

theorem lastOf?_eq_none (absent : ∀ member ∈ members, member.1 ≠ key) : lastOf? key members = none := by
  rw [Option.eq_none_iff_forall_ne_some]
  intro value found
  exact absent _ (mem_of_lastOf? found) rfl

theorem lastOf?_head (increasing : Increasing ((other, value) :: rest)) (key : String) :
    lastOf? key ((other, value) :: rest) = if other = key then some value else lastOf? key rest := by
  rw [lastOf?]
  split
  next same =>
    subst same
    have absent : lastOf? other rest = none := by
      apply lastOf?_eq_none
      intro member within
      exact (String.ne_of_lt (List.rel_of_pairwise_cons increasing within)).symm
    rw [absent, Option.none_or]
  next => rw [Option.or_none]

theorem lastOf?_self (increasing : Increasing ((key, value) :: rest)) :
    lastOf? key ((key, value) :: rest) = some value := by
  rw [lastOf?_head increasing, if_pos rfl]

theorem lastOf?_of_lt (increasing : Increasing ((other, value) :: rest)) (less : key < other) :
    lastOf? key ((other, value) :: rest) = none := by
  apply lastOf?_eq_none
  intro member within
  rcases List.mem_cons.mp within with rfl | later
  · exact (String.ne_of_lt less).symm
  · exact (String.ne_of_lt (String.lt_trans less (List.rel_of_pairwise_cons increasing later))).symm

/-- Members with increasing keys are told by the values of the keys. -/
theorem Increasing.ext {left right : List (String × Json)} (increasing : Increasing left)
    (also : Increasing right) (same : ∀ key, lastOf? key left = lastOf? key right) : left = right := by
  induction left generalizing right with
  | nil =>
    cases right with
    | nil => rfl
    | cons member right =>
      have found := same member.1
      rw [lastOf?_self also] at found
      cases found
  | cons first left ih =>
    cases right with
    | nil =>
      have found := same first.1
      rw [lastOf?_self increasing] at found
      cases found
    | cons member right =>
      have foundFirst := same first.1
      have foundMember := same member.1
      rw [lastOf?_self increasing] at foundFirst
      rw [lastOf?_self also] at foundMember
      -- If one of the first keys were less, the other list would not have it.
      have keys : first.1 = member.1 := by
        apply String.le_antisymm
        · intro less
          rw [lastOf?_of_lt increasing less] at foundMember
          cases foundMember
        · intro less
          rw [lastOf?_of_lt also less] at foundFirst
          cases foundFirst
      rw [lastOf?_head also, if_pos keys.symm] at foundFirst
      have heads : first = member := Prod.ext keys (Option.some.inj foundFirst)
      subst heads
      rw [ih (List.pairwise_cons.mp increasing).2 (List.pairwise_cons.mp also).2]
      -- The key of the first members stands in neither rest, and all others are looked up there.
      intro key
      have here := same key
      by_cases first.1 = key
      next equal =>
        subst equal
        rw [lastOf?_eq_none fun member within =>
            (String.ne_of_lt (List.rel_of_pairwise_cons increasing within)).symm,
          lastOf?_eq_none fun member within =>
            (String.ne_of_lt (List.rel_of_pairwise_cons also within)).symm]
      next differs => rwa [lastOf?_head increasing, lastOf?_head also, if_neg differs, if_neg differs] at here

theorem mem_setMember {member : String × Json} (h : member ∈ setMember key value members) :
    member = (key, value) ∨ member ∈ members := by
  induction members with
  | nil => exact .inl (List.mem_singleton.mp h)
  | cons first rest ih =>
    rw [setMember] at h
    split at h
    next => exact List.mem_cons.mp h
    next =>
      split at h
      next => exact (List.mem_cons.mp h).imp_right (List.mem_cons_of_mem _)
      next =>
        rcases List.mem_cons.mp h with rfl | later
        · exact .inr List.mem_cons_self
        · exact (ih later).imp_right (List.mem_cons_of_mem _)

theorem increasing_setMember (increasing : Increasing members) :
    Increasing (setMember key value members) := by
  induction members with
  | nil => exact List.pairwise_singleton _ _
  | cons first rest ih =>
    obtain ⟨below, later⟩ := List.pairwise_cons.mp increasing
    rw [setMember]
    split
    next before =>
      refine List.pairwise_cons.mpr ⟨List.forall_mem_cons.mpr ⟨before, ?_⟩, increasing⟩
      intro member within
      exact String.lt_trans before (below member within)
    next notBefore =>
      split
      next same =>
        subst same
        exact List.pairwise_cons.mpr ⟨below, later⟩
      next differs =>
        refine List.pairwise_cons.mpr ⟨?_, ih later⟩
        intro member within
        rcases mem_setMember within with rfl | old
        · exact String.not_le.mp fun order => differs (String.le_antisymm order notBefore)
        · exact below member old

theorem lastOf?_setMember (increasing : Increasing members) (asked : String) :
    lastOf? asked (setMember key value members) =
      if key = asked then some value else lastOf? asked members := by
  induction members with
  | nil => simp only [setMember, lastOf?, Option.none_or]
  | cons first rest ih =>
    obtain ⟨below, later⟩ := List.pairwise_cons.mp increasing
    have set := @increasing_setMember key value _ increasing
    rw [setMember] at set ⊢
    split
    next before =>
      rw [if_pos before] at set
      exact lastOf?_head set asked
    next notBefore =>
      rw [if_neg notBefore] at set
      split
      next same =>
        rw [if_pos same] at set
        subst same
        rw [lastOf?_head set, lastOf?_head increasing]
        split <;> rfl
      next differs =>
        rw [if_neg differs] at set
        rw [lastOf?_head set, lastOf?_head increasing, ih later]
        split
        next here =>
          subst here
          rw [if_neg differs]
        next => rfl

theorem increasing_foldl_setMember {ordered : List (String × Json)} (increasing : Increasing ordered) :
    Increasing (members.foldl (fun ordered (key, value) => setMember key value ordered) ordered) := by
  induction members generalizing ordered with
  | nil => exact increasing
  | cons member rest ih => exact ih (increasing_setMember increasing)

theorem lastOf?_foldl_setMember {ordered : List (String × Json)} (increasing : Increasing ordered)
    (asked : String) : lastOf? asked (members.foldl (fun ordered (key, value) =>
      setMember key value ordered) ordered) = (lastOf? asked members).or (lastOf? asked ordered) := by
  induction members generalizing ordered with
  | nil => rfl
  | cons member rest ih =>
    rw [List.foldl_cons, ih (increasing_setMember increasing), lastOf?_setMember increasing, lastOf?,
      Option.or_assoc]
    split <;> rfl

theorem mem_foldl_setMember {ordered : List (String × Json)} {member : String × Json}
    (h : member ∈ members.foldl (fun ordered (key, value) => setMember key value ordered) ordered) :
    member ∈ members ∨ member ∈ ordered := by
  induction members generalizing ordered with
  | nil => exact .inr h
  | cons first rest ih =>
    rcases ih h with later | set
    · exact .inl (List.mem_cons_of_mem _ later)
    · rcases mem_setMember set with rfl | old
      · exact .inl List.mem_cons_self
      · exact .inr old

theorem increasing_orderMembers (members : List (String × Json)) : Increasing (orderMembers members) :=
  increasing_foldl_setMember List.Pairwise.nil

theorem lastOf?_orderMembers (members : List (String × Json)) (key : String) :
    lastOf? key (orderMembers members) = lastOf? key members := by
  rw [orderMembers, lastOf?_foldl_setMember List.Pairwise.nil, lastOf?, Option.or_none]

theorem mem_of_mem_orderMembers {member : String × Json} (h : member ∈ orderMembers members) :
    member ∈ members := by
  rcases mem_foldl_setMember h with within | within
  · exact within
  · cases within

theorem orderMembers_of_increasing (increasing : Increasing members) : orderMembers members = members :=
  (increasing_orderMembers members).ext increasing (lastOf?_orderMembers members)

/-- A property that each value inherits from the values in its brackets holds of all of them. -/
@[elab_as_elim]
theorem byParts {motive : Json → Prop} (value : Json)
    (scalar : ∀ value, (∀ items, value ≠ .array items) → (∀ members, value ≠ .object members) →
      motive value)
    (array : ∀ items, (∀ item ∈ items, motive item) → motive (.array items))
    (object : ∀ members, (∀ member ∈ members, motive member.2) → motive (.object members)) :
    motive value := by
  cases value with
  | array items => exact array items fun item _ => byParts item scalar array object
  | object members => exact object members fun member _ => byParts member.2 scalar array object
  | _ => exact scalar _ nofun nofun
termination_by sizeOf value
decreasing_by
  · have smaller := List.sizeOf_lt_of_mem ‹item ∈ items›
    rw [Json.array.sizeOf_spec]
    omega
  · have smaller := List.sizeOf_lt_of_mem ‹member ∈ members›
    have part : sizeOf member = 1 + sizeOf member.1 + sizeOf member.2 := Prod.mk.sizeOf_spec ..
    rw [Json.object.sizeOf_spec]
    omega

theorem canonical_array (items : List Json) : canonical (.array items) = .array (items.map canonical) := by
  have each : ∀ items : List Json, canonicalItems items = items.map canonical := by
    intro items
    induction items with
    | nil => rw [canonicalItems, List.map_nil]
    | cons item rest ih => rw [canonicalItems, ih, List.map_cons]
  rw [canonical, each]

def canonicalValues (members : List (String × Json)) : List (String × Json) :=
  members.map fun (key, value) => (key, canonical value)

theorem canonical_object (members : List (String × Json)) :
    canonical (.object members) = .object (orderMembers (canonicalValues members)) := by
  have each : ∀ members : List (String × Json), canonicalMembers members = canonicalValues members := by
    intro members
    induction members with
    | nil => rw [canonicalMembers, canonicalValues, List.map_nil]
    | cons member rest ih => rw [canonicalMembers, ih, canonicalValues, canonicalValues, List.map_cons]
  rw [canonical, each]

theorem canonical_scalar (noArray : ∀ items, value ≠ .array items)
    (noObject : ∀ members, value ≠ .object members) : canonical value = value := by
  rw [canonical.eq_3 value noArray noObject]

theorem canonical_eq_array {items : List Json} (h : canonical value = .array items) :
    ∃ others, value = .array others ∧ items = others.map canonical := by
  cases value with
  | array others =>
    rw [canonical_array] at h
    exact ⟨others, rfl, (Json.array.inj h).symm⟩
  | object others =>
    rw [canonical_object] at h
    cases h
  | null | boolean | integer | double | single | string =>
    rw [canonical_scalar (by simp) (by simp)] at h
    cases h

theorem canonical_eq_object {members : List (String × Json)} (h : canonical value = .object members) :
    ∃ others, value = .object others ∧ members = orderMembers (canonicalValues others) := by
  cases value with
  | array others =>
    rw [canonical_array] at h
    cases h
  | object others =>
    rw [canonical_object] at h
    exact ⟨others, rfl, (Json.object.inj h).symm⟩
  | null | boolean | integer | double | single | string =>
    rw [canonical_scalar (by simp) (by simp)] at h
    cases h

theorem lastOf?_canonicalValues (key : String) (members : List (String × Json)) :
    lastOf? key (canonicalValues members) = (lastOf? key members).map canonical := by
  induction members with
  | nil => rfl
  | cons member rest ih =>
    have split : canonicalValues (member :: rest) = (member.1, canonical member.2) :: canonicalValues rest := rfl
    rw [split, lastOf?, lastOf?, ih, Option.map_or]
    split <;> rfl

/-- Values that agree item by item, and key by key in the last value of each key. -/
inductive SameValue : Json → Json → Prop where
  | same (value : Json) : SameValue value value
  | array {items others : List Json} (long : items.length = others.length)
      (each : ∀ pair ∈ items.zip others, SameValue pair.1 pair.2) : SameValue (.array items) (.array others)
  | object {members others : List (String × Json)}
      (keys : ∀ key, (lastOf? key members).isSome = (lastOf? key others).isSome)
      (each : ∀ key value other, lastOf? key members = some value → lastOf? key others = some other →
        SameValue value other) : SameValue (.object members) (.object others)

/-- The order of the keys and the values before the last do not count. -/
theorem SameValue.ofLast {members others : List (String × Json)}
    (same : ∀ key, lastOf? key members = lastOf? key others) : SameValue (.object members) (.object others) := by
  refine .object (fun key => congrArg Option.isSome (same key)) ?_
  intro key value other found also
  rw [same key, also] at found
  cases found
  exact .same value

inductive Ordered : Json → Prop where
  | scalar {value : Json} (noArray : ∀ items, value ≠ .array items)
      (noObject : ∀ members, value ≠ .object members) : Ordered value
  | array {items : List Json} (each : ∀ item ∈ items, Ordered item) : Ordered (.array items)
  | object {members : List (String × Json)} (increasing : Increasing members)
      (each : ∀ member ∈ members, Ordered member.2) : Ordered (.object members)

theorem map_eq_map_iff_zip {items others : List Json} : items.map canonical = others.map canonical ↔
    items.length = others.length ∧ ∀ pair ∈ items.zip others, canonical pair.1 = canonical pair.2 := by
  induction items generalizing others with
  | nil => cases others <;> simp
  | cons item items ih =>
    cases others with
    | nil => simp
    | cons other others =>
      rw [List.map_cons, List.map_cons, List.cons.injEq, ih, List.length_cons, List.length_cons,
        Nat.add_right_cancel_iff, List.zip_cons_cons, List.forall_mem_cons]
      exact and_left_comm

theorem ordered_canonical (value : Json) : (canonical value).Ordered := by
  induction value using byParts with
  | scalar value noArray noObject =>
    rw [canonical_scalar noArray noObject]
    exact .scalar noArray noObject
  | array items each =>
    rw [canonical_array]
    exact .array (List.forall_mem_map.mpr each)
  | object members each =>
    rw [canonical_object]
    refine .object (increasing_orderMembers _) ?_
    intro member within
    obtain ⟨source, found, rfl⟩ := List.mem_map.mp (mem_of_mem_orderMembers within)
    exact each source found

theorem canonical_of_ordered (ordered : value.Ordered) : canonical value = value := by
  induction ordered with
  | scalar noArray noObject => exact canonical_scalar noArray noObject
  | array _ each => rw [canonical_array, List.map_congr_left each, List.map_id']
  | @object members increasing _ each =>
    have same : canonicalValues members = members := by
      have kept : ∀ member ∈ members, (member.1, canonical member.2) = member :=
        fun member within => Prod.ext rfl (each member within)
      exact (List.map_congr_left kept).trans (List.map_id' members)
    rw [canonical_object, same, orderMembers_of_increasing increasing]

theorem SameValue.of_canonical {other : Json} (h : canonical value = canonical other) :
    value.SameValue other := by
  induction value using byParts generalizing other with
  | scalar value noArray noObject =>
    rw [canonical_scalar noArray noObject] at h
    have scalar : canonical other = other := by
      apply canonical_scalar
      · rintro items rfl
        rw [canonical_array] at h
        exact noArray _ h
      · rintro members rfl
        rw [canonical_object] at h
        exact noObject _ h
    rw [h, scalar]
    exact .same other
  | array items each =>
    rw [canonical_array] at h
    obtain ⟨others, rfl, alike⟩ := canonical_eq_array h.symm
    obtain ⟨long, same⟩ := map_eq_map_iff_zip.mp alike
    refine .array long fun pair within => ?_
    exact each pair.1 (List.of_mem_zip within).1 (same pair within)
  | object members each =>
    rw [canonical_object] at h
    obtain ⟨others, rfl, alike⟩ := canonical_eq_object h.symm
    -- Both canonical forms have the same members, so each key has values of one canonical form.
    have values : ∀ key, (lastOf? key members).map canonical = (lastOf? key others).map canonical := by
      intro key
      rw [← lastOf?_canonicalValues, ← lastOf?_canonicalValues, ← lastOf?_orderMembers, alike,
        lastOf?_orderMembers]
    refine .object ?_ ?_
    · intro key
      have same := congrArg Option.isSome (values key)
      rwa [Option.isSome_map, Option.isSome_map] at same
    · intro key value other found also
      have same := values key
      rw [found, also] at same
      exact each (key, value) (mem_of_lastOf? found) (Option.some.inj same)

theorem SameValue.canonical_eq {other : Json} (same : value.SameValue other) :
    canonical value = canonical other := by
  induction same with
  | same => rfl
  | array long _ each =>
    rw [canonical_array, canonical_array, map_eq_map_iff_zip.mpr ⟨long, each⟩]
  | @object members others keys _ each =>
    rw [canonical_object, canonical_object]
    apply congrArg Json.object
    -- Members in order are told by their keys.
    apply (increasing_orderMembers _).ext (increasing_orderMembers _)
    intro key
    rw [lastOf?_orderMembers, lastOf?_orderMembers, lastOf?_canonicalValues, lastOf?_canonicalValues]
    have present := keys key
    cases found : lastOf? key members with
    | none =>
      have absent : lastOf? key others = none := by
        rw [found] at present
        exact Option.isNone_iff_eq_none.mp (Option.isSome_eq_false_iff.mp present.symm)
      rw [absent]
    | some value =>
      rw [found] at present
      obtain ⟨other, also⟩ := Option.isSome_iff_exists.mp present.symm
      rw [also, Option.map_some, Option.map_some, each key value other found also]

/-- Values have one canonical form just when they are the same. -/
theorem canonical_eq_iff {other : Json} : canonical value = canonical other ↔ value.SameValue other :=
  ⟨.of_canonical, SameValue.canonical_eq⟩

theorem sameValue_canonical (value : Json) : (canonical value).SameValue value :=
  canonical_eq_iff.mp (canonical_of_ordered (ordered_canonical value))

theorem isWhole_canonical (whole : value.IsWhole) : (canonical value).IsWhole := by
  induction whole with
  | array _ each =>
    rw [canonical_array]
    exact .array (List.forall_mem_map.mpr each)
  | object _ each =>
    rw [canonical_object]
    refine .object fun member within => ?_
    obtain ⟨source, found, rfl⟩ := List.mem_map.mp (mem_of_mem_orderMembers within)
    exact each source found
  | null => exact .null
  | boolean value => exact .boolean value
  | integer exact => exact .integer exact
  | string value => exact .string value

theorem nestsWithin_canonical {depth : Nat} (nests : NestsWithin depth value) :
    NestsWithin depth (canonical value) := by
  induction nests with
  | array _ each =>
    rw [canonical_array]
    exact .array (List.forall_mem_map.mpr each)
  | object _ each =>
    rw [canonical_object]
    refine .object fun member within => ?_
    obtain ⟨source, found, rfl⟩ := List.mem_map.mp (mem_of_mem_orderMembers within)
    exact each source found
  | null => exact .null
  | boolean value => exact .boolean value
  | integer value => exact .integer value
  | string value => exact .string value

end TypeBridge.Json
