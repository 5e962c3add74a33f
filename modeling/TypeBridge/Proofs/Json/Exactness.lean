import TypeBridge.Proofs.Json.Reading

/-!
Only what the grammar writes is read, as long as all numbers that are read are whole. A text is taken apart
into space, the text of a value, and what was left; in brackets the space after an item belongs to it.

A text with brackets nested too deep is not read. Reading with more room for brackets reads whatever was
read with less, so it is enough to know how such a text is read with room to spare.
-/
namespace TypeBridge.Json

open TypeBridge.Text

variable {depth fuel : Nat} {value : Json} {text rest : List Char}

/-- The text of a value stands in front of the rest, with space before it. -/
def WritesBefore (depth : Nat) (value : Json) (text rest : List Char) : Prop :=
  NestsWithin depth value ∧
    ∃ gap word, Space gap ∧ Writes Space (.value value) word ∧ text = gap ++ (word ++ rest)

theorem WritesBefore.ofSkipSpace (written : WritesBefore depth value (skipSpace text) rest) :
    WritesBefore depth value text rest := by
  obtain ⟨nests, gap, word, blank, written, whole⟩ := written
  obtain ⟨before, leading, split⟩ := exists_space text
  refine ⟨nests, before ++ gap, word, List.forall_mem_append.mpr ⟨leading, blank⟩, written, ?_⟩
  rw [split, whole, List.append_assoc]

theorem word_of_readWord {word : List Char} (h : readWord word text = .ok rest) : text = word ++ rest := by
  induction word generalizing text with
  | nil =>
    rw [readWord] at h
    cases h
    rfl
  | cons expected word ih =>
    cases text with
    | nil => cases h
    | cons character text =>
      rw [readWord] at h
      split at h
      next same => rw [same, ih h, List.cons_append]
      next => cases h

theorem constant_eq_ok {constantly : Json} {read : Except Stop (List Char)} :
    constant constantly read = .ok (value, rest) ↔ value = constantly ∧ read = .ok rest := by
  cases read with
  | error =>
    constructor
    · intro h
      cases h
    · rintro ⟨-, h⟩
      cases h
  | ok left =>
    constructor
    · intro h
      cases h
      exact ⟨rfl, rfl⟩
    · rintro ⟨rfl, same⟩
      cases same
      rfl

theorem writes_of_readScalar (h : readScalar text = .ok (value, rest)) (whole : value.IsWhole) :
    (∀ depth, NestsWithin depth value) ∧
      ∃ word, Writes Space (.value value) word ∧ text = word ++ rest := by
  have notDouble : ∀ number, value ≠ .double number := by
    rintro number rfl
    cases whole
  have numbered : ∀ {number : Int}, Exact number → (∀ depth, NestsWithin depth (.integer number)) ∧
      Writes Space (.value (.integer number)) (signedNumeral number) :=
    fun exact => ⟨fun _ => .integer _, .integer exact⟩
  unfold readScalar at h
  split at h
  next => cases h
  next after =>
    obtain ⟨rfl, read⟩ := constant_eq_ok.mp h
    rw [word_of_readWord read]
    exact ⟨fun _ => .null, _, .null, rfl⟩
  next after =>
    obtain ⟨rfl, read⟩ := constant_eq_ok.mp h
    rw [word_of_readWord read]
    exact ⟨fun _ => .boolean true, _, .boolean true, rfl⟩
  next after =>
    obtain ⟨rfl, read⟩ := constant_eq_ok.mp h
    rw [word_of_readWord read]
    exact ⟨fun _ => .boolean false, _, .boolean false, rfl⟩
  next after =>
    obtain ⟨number, rfl, exact, same⟩ := signedNumeral_of_readNumber h notDouble
    exact ⟨(numbered exact).1, _, (numbered exact).2, same⟩
  next after =>
    obtain ⟨⟨meant, left⟩, read, h⟩ := bind_eq_ok.mp h
    cases h
    obtain ⟨spelling, spelled, rfl⟩ := spelledIn_of_readText read
    exact ⟨fun _ => .string _, _, .string spelled, by simp⟩
  next first after _ _ _ _ _ =>
    split at h
    next =>
      obtain ⟨number, rfl, exact, same⟩ := signedNumeral_of_readNumber h notDouble
      exact ⟨(numbered exact).1, _, (numbered exact).2, same⟩
    next => cases h

theorem writesBefore_of_readScalar (h : readScalar (skipSpace text) = .ok (value, rest))
    (whole : value.IsWhole) : WritesBefore depth value text rest := by
  obtain ⟨nests, word, written, same⟩ := writes_of_readScalar h whole
  exact WritesBefore.ofSkipSpace ⟨nests depth, [], word, by simp [Space], written, same⟩

/-- The texts of items up to the bracket after them: from the first on, or with the comma before the next. -/
inductive Listed : Bool → List Json → List Char → Prop where
  | none {first : Bool} {gap : List Char} (blank : Space gap) : Listed first [] gap
  | first {values : List Json} {inner : List Char} (items : Writes Space (.items values) inner) :
      Listed true values inner
  | next {values : List Json} {gap inner : List Char} (blank : Space gap)
      (items : Writes Space (.items values) inner) : Listed false values (gap ++ ',' :: inner)

inductive ListedMembers : Bool → List (String × Json) → List Char → Prop where
  | none {first : Bool} {gap : List Char} (blank : Space gap) : ListedMembers first [] gap
  | first {members : List (String × Json)} {inner : List Char}
      (written : Writes Space (.members members) inner) : ListedMembers true members inner
  | next {members : List (String × Json)} {gap inner : List Char} (blank : Space gap)
      (written : Writes Space (.members members) inner) : ListedMembers false members (gap ++ ',' :: inner)

theorem Listed.cons {values : List Json} {between : List Char}
    (item : WritesBefore depth value text (between ++ ']' :: rest)) (others : Listed false values between) :
    ∃ inner, Writes Space (.items (value :: values)) inner ∧ text = inner ++ ']' :: rest := by
  obtain ⟨-, before, word, leading, written, rfl⟩ := item
  cases others with
  | none blank => exact ⟨_, .lastItem (.element leading written blank), by simp⟩
  | next blank items => exact ⟨_, .nextItem (.element leading written blank) items, by simp⟩

theorem listed_of_readItems {first : Bool} {values : List Json}
    (sound : ∀ {text value rest}, readValue depth text = .ok (value, rest) → value.IsWhole →
      WritesBefore depth value text rest)
    (h : readItems (readValue depth) fuel first text = .ok (values, rest))
    (whole : ∀ value ∈ values, value.IsWhole) : (∀ value ∈ values, NestsWithin depth value) ∧
      ∃ between, Listed first values between ∧ text = between ++ ']' :: rest := by
  induction fuel generalizing first text values with
  | zero => cases h
  | succ fuel ih =>
    -- One item, and those that follow it.
    have run : ∀ {text : List Char}, readRun (readValue depth) fuel text = .ok (values, rest) →
        (∀ value ∈ values, NestsWithin depth value) ∧
          ∃ inner, Writes Space (.items values) inner ∧ text = inner ++ ']' :: rest := by
      intro text h
      obtain ⟨⟨value, left⟩, read, h⟩ := bind_eq_ok.mp h
      obtain ⟨⟨later, final⟩, readLater, h⟩ := bind_eq_ok.mp h
      cases h
      obtain ⟨one, others⟩ := List.forall_mem_cons.mp whole
      obtain ⟨nests, between, listed, rfl⟩ := ih readLater others
      have item := sound read one
      obtain ⟨inner, written, same⟩ := Listed.cons item listed
      exact ⟨List.forall_mem_cons.mpr ⟨item.1, nests⟩, inner, written, same⟩
    obtain ⟨gap, blank, split⟩ := exists_space text
    cases readItems_eq_ok.mp h with
    | close bracket => exact ⟨by simp, gap, .none blank, bracket ▸ split⟩
    | first _ here =>
      rw [readRun_skipSpace] at here
      obtain ⟨nests, inner, written, same⟩ := run here
      exact ⟨nests, inner, .first written, same⟩
    | next comma _ here =>
      rw [readRun_skipSpace] at here
      obtain ⟨nests, inner, written, same⟩ := run here
      refine ⟨nests, gap ++ ',' :: inner, .next blank written, ?_⟩
      rw [split, comma, same, List.append_assoc, List.cons_append]

theorem Writes.afterSpace {members : List (String × Json)} {gap : List Char}
    (written : Writes Space (.members members) text) (blank : Space gap) :
    Writes Space (.members members) (gap ++ text) := by
  have longer : ∀ {key : String} {value : Json} {text : List Char},
      Writes Space (.member key value) text → Writes Space (.member key value) (gap ++ text) := by
    intro key value text member
    cases member with
    | member leading spelled trailing written =>
      rw [← List.append_assoc]
      exact .member (List.forall_mem_append.mpr ⟨blank, leading⟩) spelled trailing written
  cases written with
  | lastMember member => exact .lastMember (longer member)
  | nextMember member others =>
    rw [← List.append_assoc]
    exact .nextMember (longer member) others

theorem ListedMembers.cons {key : String} {members : List (String × Json)} {between : List Char}
    (member : readMember (readValue depth) text = .ok ((key, value), between ++ '\x7d' :: rest))
    (sound : ∀ {text rest}, readValue depth text = .ok (value, rest) → WritesBefore depth value text rest)
    (others : ListedMembers false members between) : NestsWithin depth value ∧
      ∃ inner, Writes Space (.members ((key, value) :: members)) ('\x22' :: inner) ∧
        text = inner ++ '\x7d' :: rest := by
  obtain ⟨⟨name, left⟩, readKey, member⟩ := bind_eq_ok.mp member
  obtain ⟨afterColon, colon, member⟩ := bind_eq_ok.mp member
  obtain ⟨⟨found, after⟩, read, member⟩ := bind_eq_ok.mp member
  cases member
  obtain ⟨spelling, spelled, rfl⟩ := spelledIn_of_readText readKey
  obtain ⟨gap, blank, split⟩ := exists_space left
  obtain ⟨nests, before, word, leading, written, rfl⟩ := sound read
  refine ⟨nests, ?_⟩
  rw [split, readColon_eq_ok.mp colon]
  cases others with
  | none trailing =>
    have member := Writes.member (by simp [Space] : Space []) spelled blank (.element leading written trailing)
    exact ⟨_, .lastMember member, by simp⟩
  | next trailing rest =>
    have member := Writes.member (by simp [Space] : Space []) spelled blank (.element leading written trailing)
    exact ⟨_, .nextMember member rest, by simp⟩

theorem listedMembers_of_readMembers {first : Bool} {members : List (String × Json)}
    (sound : ∀ {text value rest}, readValue depth text = .ok (value, rest) → value.IsWhole →
      WritesBefore depth value text rest)
    (h : readMembers (readValue depth) fuel first text = .ok (members, rest))
    (whole : ∀ member ∈ members, member.2.IsWhole) :
    (∀ member ∈ members, NestsWithin depth member.2) ∧
      ∃ between, ListedMembers first members between ∧ text = between ++ '\x7d' :: rest := by
  induction fuel generalizing first text members with
  | zero => cases h
  | succ fuel ih =>
    -- One member after its first quote, and those that follow it.
    have run : ∀ {text : List Char}, readMemberRun (readValue depth) fuel text = .ok (members, rest) →
        (∀ member ∈ members, NestsWithin depth member.2) ∧
          ∃ inner, Writes Space (.members members) ('\x22' :: inner) ∧
            text = inner ++ '\x7d' :: rest := by
      intro text h
      obtain ⟨⟨⟨key, value⟩, left⟩, read, h⟩ := bind_eq_ok.mp h
      obtain ⟨⟨later, final⟩, readLater, h⟩ := bind_eq_ok.mp h
      cases h
      obtain ⟨one, others⟩ := List.forall_mem_cons.mp whole
      obtain ⟨nests, between, listed, rfl⟩ := ih readLater others
      obtain ⟨nestsOne, written⟩ := ListedMembers.cons read (fun found => sound found one) listed
      exact ⟨List.forall_mem_cons.mpr ⟨nestsOne, nests⟩, written⟩
    obtain ⟨gap, blank, split⟩ := exists_space text
    cases readMembers_eq_ok.mp h with
    | close brace => exact ⟨by simp, gap, .none blank, brace ▸ split⟩
    | first quote here =>
      obtain ⟨nests, inner, written, same⟩ := run here
      refine ⟨nests, gap ++ '\x22' :: inner, .first (written.afterSpace blank), ?_⟩
      rw [split, quote, same, List.append_assoc, List.cons_append]
    | @next _ after _ _ _ comma quote here =>
      obtain ⟨between, blanks, splitAfter⟩ := exists_space after
      obtain ⟨nests, inner, written, same⟩ := run here
      refine ⟨nests, gap ++ ',' :: (between ++ '\x22' :: inner),
        .next blank (written.afterSpace blanks), ?_⟩
      rw [split, comma, splitAfter, quote, same]
      simp only [List.append_assoc, List.cons_append]

/-- A value of whole numbers that is read has its text there, and brackets nested in it no deeper than
reading goes. -/
theorem writes_of_readValue (h : readValue depth text = .ok (value, rest)) (whole : value.IsWhole) :
    WritesBefore depth value text rest := by
  induction depth generalizing text value rest with
  | zero =>
    rw [readValue] at h
    split at h
    next => cases h
    next => cases h
    next => exact writesBefore_of_readScalar h whole
  | succ depth ih =>
    rw [readValue] at h
    split at h
    next after skipped =>
      obtain ⟨⟨items, left⟩, read, h⟩ := bind_eq_ok.mp h
      cases h
      cases whole with
      | array each =>
        obtain ⟨nests, between, listed, rfl⟩ := listed_of_readItems ih read each
        apply WritesBefore.ofSkipSpace
        rw [skipped]
        refine ⟨.array nests, [], '[' :: (between ++ [']']), by simp [Space], ?_, by simp⟩
        cases listed with
        | none blank => exact .emptyArray blank
        | first items => exact .array items
    next after skipped =>
      obtain ⟨⟨members, left⟩, read, h⟩ := bind_eq_ok.mp h
      cases h
      cases whole with
      | object each =>
        obtain ⟨nests, between, listed, rfl⟩ := listedMembers_of_readMembers ih read each
        apply WritesBefore.ofSkipSpace
        rw [skipped]
        refine ⟨.object nests, [], '\x7b' :: (between ++ ['\x7d']), by simp [Space], ?_, by simp⟩
        cases listed with
        | none blank => exact .emptyObject blank
        | first written => exact .object written
    next => exact writesBefore_of_readScalar h whole

theorem readValue_of_read {text : String} (h : read text = .ok value) :
    ∃ rest, readValue maxDepth text.toList = .ok (value, rest) ∧ skipSpace rest = [] := by
  unfold read at h
  split at h
  next found =>
    cases h
    obtain ⟨⟨value, rest⟩, read, h⟩ := bind_eq_ok.mp found
    dsimp only at h
    split at h
    next nothing =>
      cases h
      exact ⟨rest, read, nothing⟩
    next => cases h
  next => cases h

/-- The texts that are read as a value of whole numbers are those that write it, as long as brackets are
nested in it no deeper than reading goes. -/
theorem read_eq_ok {text : String} : (read text = .ok value ∧ value.IsWhole) ↔
    Denotes text value ∧ NestsWithin maxDepth value := by
  constructor
  · rintro ⟨h, whole⟩
    obtain ⟨rest, read, nothing⟩ := readValue_of_read h
    obtain ⟨nests, gap, word, leading, written, same⟩ := writes_of_readValue read whole
    obtain ⟨trailing, blank, split⟩ := exists_space rest
    rw [nothing, List.append_nil] at split
    subst split
    rw [Denotes, same]
    exact ⟨.element leading written blank, nests⟩
  · rintro ⟨denotes, nests⟩
    exact ⟨by rw [read, readAll_of_writes denotes nests], denotes.isWhole⟩

/-- What one reader of values reads, the other reads as well. -/
def ReadsMore (item other : List Char → Except Stop (Json × List Char)) : Prop :=
  ∀ {text result}, item text = .ok result → other text = .ok result

variable {item other : List Char → Except Stop (Json × List Char)} {first : Bool}

theorem readItems_of_readsMore {result : List Json × List Char} (more : ReadsMore item other)
    (h : readItems item fuel first text = .ok result) : readItems other fuel first text = .ok result := by
  induction fuel generalizing first text result with
  | zero => cases h
  | succ fuel ih =>
    have run : ∀ {text : List Char}, readRun item fuel text = .ok result →
        readRun other fuel text = .ok result := by
      intro text h
      obtain ⟨_, read, h⟩ := bind_eq_ok.mp h
      obtain ⟨_, readLater, h⟩ := bind_eq_ok.mp h
      exact bind_eq_ok.mpr ⟨_, more read, bind_eq_ok.mpr ⟨_, ih readLater, h⟩⟩
    obtain ⟨read, rest⟩ := result
    rw [readItems_eq_ok] at h ⊢
    cases h with
    | close bracket => exact .close bracket
    | first opens here => exact .first opens (run here)
    | next comma opens here => exact .next comma opens (run here)

theorem readMembers_of_readsMore {result : List (String × Json) × List Char} (more : ReadsMore item other)
    (h : readMembers item fuel first text = .ok result) :
    readMembers other fuel first text = .ok result := by
  induction fuel generalizing first text result with
  | zero => cases h
  | succ fuel ih =>
    have run : ∀ {text : List Char}, readMemberRun item fuel text = .ok result →
        readMemberRun other fuel text = .ok result := by
      intro text h
      obtain ⟨_, member, h⟩ := bind_eq_ok.mp h
      obtain ⟨_, readLater, h⟩ := bind_eq_ok.mp h
      obtain ⟨_, readKey, member⟩ := bind_eq_ok.mp member
      obtain ⟨_, colon, member⟩ := bind_eq_ok.mp member
      obtain ⟨_, read, member⟩ := bind_eq_ok.mp member
      refine bind_eq_ok.mpr ⟨_, ?_, bind_eq_ok.mpr ⟨_, ih readLater, h⟩⟩
      exact bind_eq_ok.mpr ⟨_, readKey, bind_eq_ok.mpr ⟨_, colon, bind_eq_ok.mpr ⟨_, more read, member⟩⟩⟩
    obtain ⟨read, rest⟩ := result
    rw [readMembers_eq_ok] at h ⊢
    cases h with
    | close brace => exact .close brace
    | first quote here => exact .first quote (run here)
    | next comma quote here => exact .next comma quote (run here)

theorem readValue_succ : ReadsMore (readValue depth) (readValue (depth + 1)) := by
  induction depth with
  | zero =>
    intro text result h
    rw [readValue] at h ⊢
    split at h
    next => cases h
    next => cases h
    next => exact h
  | succ depth ih =>
    intro text result h
    rw [readValue] at h ⊢
    split at h
    next =>
      obtain ⟨⟨items, left⟩, read, h⟩ := bind_eq_ok.mp h
      exact bind_eq_ok.mpr ⟨_, readItems_of_readsMore ih read, h⟩
    next =>
      obtain ⟨⟨members, left⟩, read, h⟩ := bind_eq_ok.mp h
      exact bind_eq_ok.mpr ⟨_, readMembers_of_readsMore ih read, h⟩
    next => exact h

theorem readValue_mono {more : Nat} (h : depth ≤ more) : ReadsMore (readValue depth) (readValue more) := by
  obtain ⟨deeper, rfl⟩ := Nat.exists_eq_add_of_le h
  induction deeper with
  | zero => exact id
  | succ deeper ih => exact fun read => readValue_succ (ih (Nat.le_add_right ..) read)

/-- Brackets are nested in a value no deeper than it is large. -/
theorem nestsWithin_of_sizeOf_le (whole : value.IsWhole) (h : sizeOf value ≤ depth) :
    NestsWithin depth value := by
  induction whole generalizing depth with
  | null => exact .null
  | boolean value => exact .boolean value
  | integer => exact .integer _
  | string value => exact .string value
  | @array items _ each =>
    rw [array.sizeOf_spec] at h
    obtain ⟨room, rfl⟩ : ∃ room, depth = room + 1 := ⟨depth - 1, by omega⟩
    refine .array fun item within => each item within ?_
    have smaller := List.sizeOf_lt_of_mem within
    omega
  | @object members _ each =>
    rw [object.sizeOf_spec] at h
    obtain ⟨room, rfl⟩ : ∃ room, depth = room + 1 := ⟨depth - 1, by omega⟩
    refine .object fun member within => each member within ?_
    have smaller := List.sizeOf_lt_of_mem within
    have part : sizeOf member = 1 + sizeOf member.1 + sizeOf member.2 := Prod.mk.sizeOf_spec ..
    omega

theorem eq_of_readValue (written : Writes Space (.element value) text) {found : Json}
    (h : readValue depth text = .ok (found, rest)) : found = value := by
  have nests := nestsWithin_of_sizeOf_le written.isWhole (Nat.le_max_right depth (sizeOf value))
  obtain ⟨gap, -, done⟩ := readValue_of_writes written nests
  rw [readValue_mono (Nat.le_max_left depth (sizeOf value)) h] at done
  cases done
  rfl

theorem Writes.unique {other : Json} (written : Writes Space (.element value) text)
    (also : Writes Space (.element other) text) : value = other := by
  obtain ⟨gap, -, done⟩ := readValue_of_writes written (nestsWithin_of_sizeOf_le written.isWhole (Nat.le_refl _))
  exact eq_of_readValue also done

/-- A document is read as its value, unless brackets are nested in it too deep. -/
theorem read_eq_ok_iff {text : String} (denotes : Denotes text value) {found : Json} :
    read text = .ok found ↔ found = value ∧ NestsWithin maxDepth value := by
  constructor
  · intro h
    obtain ⟨rest, read, -⟩ := readValue_of_read h
    obtain rfl := eq_of_readValue denotes read
    exact ⟨rfl, (read_eq_ok.mp ⟨h, denotes.isWhole⟩).2⟩
  · rintro ⟨rfl, nests⟩
    exact (read_eq_ok.mpr ⟨denotes, nests⟩).1

theorem compact_injective {other : Json} (whole : value.IsWhole) (alsoWhole : other.IsWhole)
    (same : value.compact = other.compact) : value = other := by
  have written := (denotesCompactly_compact whole).denotes
  have also := (denotesCompactly_compact alsoWhole).denotes
  rw [← same] at also
  exact Writes.unique written also

end TypeBridge.Json
