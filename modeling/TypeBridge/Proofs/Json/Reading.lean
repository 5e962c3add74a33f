import TypeBridge.Proofs.Json.Grammar

/-!
Reading by the grammar. Every text that the grammar writes, with brackets nested no deeper than reading
goes, is read as the value it writes. By induction on the grammar each phrase is read up to its end, or up
to the space in its end when that is left to whatever comes next.
-/
namespace TypeBridge.Json

open TypeBridge.Text

theorem isSpace_eq_true {character : Char} :
    isSpace character = true ↔ character ∈ [' ', '\n', '\t', '\r'] := by
  simp [isSpace, or_assoc]

theorem skipSpace_append {gap : List Char} (blank : Space gap) (text : List Char) :
    skipSpace (gap ++ text) = skipSpace text :=
  List.dropWhile_append_of_pos fun character member => isSpace_eq_true.mpr (blank character member)

theorem skipSpace_solid {first : Char} (solid : isSpace first = false) (rest : List Char) :
    skipSpace (first :: rest) = first :: rest := by
  rw [skipSpace, List.dropWhile_cons, solid]
  rfl

theorem exists_space (text : List Char) : ∃ gap, Space gap ∧ text = gap ++ skipSpace text := by
  refine ⟨text.takeWhile isSpace, ?_, (List.takeWhile_append_dropWhile ..).symm⟩
  intro character member
  exact isSpace_eq_true.mp (List.all_eq_true.mp List.all_takeWhile character member)

theorem skipSpace_skipSpace (text : List Char) : skipSpace (skipSpace text) = skipSpace text := by
  obtain ⟨gap, blank, whole⟩ := exists_space text
  have again := congrArg skipSpace whole
  rwa [skipSpace_append blank, eq_comm] at again

theorem readValue_append {gap : List Char} (blank : Space gap) (depth : Nat) (text : List Char) :
    readValue depth (gap ++ text) = readValue depth text := by
  rw [readValue, readValue, skipSpace_append blank]

theorem readValue_skipSpace (depth : Nat) (text : List Char) :
    readValue depth (skipSpace text) = readValue depth text := by
  rw [readValue, readValue, skipSpace_skipSpace]

theorem EndsNumber.append {gap rest : List Char} (ends : EndsNumber rest) (blank : Space gap) :
    EndsNumber (gap ++ rest) := by
  cases gap with
  | nil => exact ends
  | cons first gap =>
    intro next head
    cases head
    have space := blank first List.mem_cons_self
    simp only [List.mem_cons, List.not_mem_nil, or_false] at space
    rcases space with rfl | rfl | rfl | rfl <;> rfl

theorem endsNumber_cons {mark : Char} (stops : continues mark = false) (rest : List Char) :
    EndsNumber (mark :: rest) := by
  intro next head
  cases head
  exact stops

def readRun (item : List Char → Except Stop (Json × List Char)) (fuel : Nat) (text : List Char) :
    Except Stop (List Json × List Char) := do
  let (value, rest) ← item text
  let (values, rest) ← readItems item fuel false rest
  return (value :: values, rest)

def readMember (item : List Char → Except Stop (Json × List Char)) (text : List Char) :
    Except Stop ((String × Json) × List Char) := do
  let (key, rest) ← readText text
  let (value, rest) ← item (← readColon rest)
  return ((String.ofList key, value), rest)

def readMemberRun (item : List Char → Except Stop (Json × List Char)) (fuel : Nat) (text : List Char) :
    Except Stop (List (String × Json) × List Char) := do
  let (member, rest) ← readMember item text
  let (members, rest) ← readMembers item fuel false rest
  return (member :: members, rest)

theorem readMemberRun_eq (item : List Char → Except Stop (Json × List Char)) (fuel : Nat)
    (text : List Char) : readMemberRun item fuel text = (do
    let (key, rest) ← readText text
    let (value, rest) ← item (← readColon rest)
    let (members, rest) ← readMembers item fuel false rest
    return ((String.ofList key, value) :: members, rest)) := by
  simp only [readMemberRun, readMember, bind_assoc, pure_bind]

/-- A text that starts, space apart, with something else than a bracket that closes. -/
def Opens (text : List Char) : Prop := ∃ first more, skipSpace text = first :: more ∧ first ≠ ']'

/-- How items are read up to the closing bracket: none is left, or there is one more, with a comma before it
unless it is the first. -/
inductive ItemsRead (item : List Char → Except Stop (Json × List Char)) (fuel : Nat) :
    Bool → List Char → List Json → List Char → Prop where
  | close {first : Bool} {text rest : List Char} (bracket : skipSpace text = ']' :: rest) :
      ItemsRead item fuel first text [] rest
  | first {text rest : List Char} {values : List Json} (opens : Opens text)
      (run : readRun item fuel (skipSpace text) = .ok (values, rest)) :
      ItemsRead item fuel true text values rest
  | next {text after rest : List Char} {values : List Json} (comma : skipSpace text = ',' :: after)
      (opens : Opens after) (run : readRun item fuel (skipSpace after) = .ok (values, rest)) :
      ItemsRead item fuel false text values rest

inductive MembersRead (item : List Char → Except Stop (Json × List Char)) (fuel : Nat) :
    Bool → List Char → List (String × Json) → List Char → Prop where
  | close {first : Bool} {text rest : List Char} (brace : skipSpace text = '\x7d' :: rest) :
      MembersRead item fuel first text [] rest
  | first {text more rest : List Char} {members : List (String × Json)}
      (quote : skipSpace text = '\x22' :: more) (run : readMemberRun item fuel more = .ok (members, rest)) :
      MembersRead item fuel true text members rest
  | next {text after more rest : List Char} {members : List (String × Json)}
      (comma : skipSpace text = ',' :: after) (quote : skipSpace after = '\x22' :: more)
      (run : readMemberRun item fuel more = .ok (members, rest)) :
      MembersRead item fuel false text members rest

section

variable {item : List Char → Except Stop (Json × List Char)} {fuel : Nat} {first : Bool}
  {text rest : List Char} {values : List Json} {members : List (String × Json)}

theorem readItems_eq_ok : readItems item (fuel + 1) first text = .ok (values, rest) ↔
    ItemsRead item fuel first text values rest := by
  rw [readItems]
  constructor
  · intro h
    split at h
    next => cases h
    next bracket =>
      cases h
      exact .close bracket
    next character more isOpen skipped =>
      split at h
      next isFirst =>
        subst isFirst
        refine .first ⟨character, more, skipped, isOpen⟩ ?_
        rw [skipped]
        exact h
      next notFirst =>
        rw [Bool.not_eq_true] at notFirst
        subst notFirst
        split at h
        next comma =>
          subst comma
          split at h
          next => cases h
          next => cases h
          next _ present isOpen =>
            obtain ⟨first, later, begins⟩ := List.exists_cons_of_ne_nil present
            exact .next skipped ⟨first, later, begins, fun same => isOpen later (same ▸ begins)⟩ h
        next => cases h
  · rintro (bracket | ⟨⟨character, more, skipped, isOpen⟩, run⟩ | ⟨comma, ⟨character, more, skipped, isOpen⟩, run⟩)
    · rw [bracket]
      rfl
    · rw [skipped] at run ⊢
      split
      next same => cases same
      next same => exact absurd (List.cons.inj same).1 isOpen
      next same =>
        cases same
        exact run
    · rw [skipped] at run
      rw [comma]
      split
      next same => cases same
      next same => cases same
      next same =>
        cases same
        rw [if_neg Bool.false_ne_true, if_pos rfl, skipped]
        split
        next same => cases same
        next same => exact absurd (List.cons.inj same).1 isOpen
        next => exact run

theorem readMembers_eq_ok : readMembers item (fuel + 1) first text = .ok (members, rest) ↔
    MembersRead item fuel first text members rest := by
  rw [readMembers]
  constructor
  · intro h
    split at h
    next => cases h
    next brace =>
      cases h
      exact .close brace
    next character more _ skipped =>
      split at h
      next isFirst =>
        subst isFirst
        split at h
        next quote =>
          subst quote
          refine .first skipped ?_
          rw [readMemberRun_eq]
          exact h
        next => cases h
      next notFirst =>
        rw [Bool.not_eq_true] at notFirst
        subst notFirst
        split at h
        next comma =>
          subst comma
          split at h
          next => cases h
          next quote =>
            refine .next skipped quote ?_
            rw [readMemberRun_eq]
            exact h
          next => cases h
          next => cases h
        next => cases h
  · rintro (brace | ⟨quote, run⟩ | ⟨comma, quote, run⟩)
    · rw [brace]
      rfl
    · rw [readMemberRun_eq] at run
      rw [quote]
      exact run
    · rw [readMemberRun_eq] at run
      rw [comma]
      split
      next same => cases same
      next same => cases same
      next same =>
        cases same
        rw [if_neg Bool.false_ne_true, if_pos rfl, quote]
        exact run

end

theorem readColon_eq_ok {text rest : List Char} :
    readColon text = .ok rest ↔ skipSpace text = ':' :: rest := by
  rw [readColon]
  constructor
  · intro h
    split at h
    next => cases h
    next colon =>
      cases h
      exact colon
    next => cases h
  · intro colon
    rw [colon]
    rfl

variable {depth fuel : Nat}

theorem opens_cons {first : Char} (solid : isSpace first = false) (isOpen : first ≠ ']')
    (more : List Char) : Opens (first :: more) :=
  ⟨first, more, skipSpace_solid solid more, isOpen⟩

theorem Opens.append {text : List Char} (opens : Opens text) (rest : List Char) : Opens (text ++ rest) := by
  obtain ⟨first, more, skipped, isOpen⟩ := opens
  refine ⟨first, more ++ rest, ?_, isOpen⟩
  rw [skipSpace] at skipped ⊢
  rw [List.dropWhile_append, skipped]
  rfl

theorem Opens.afterSpace {gap text : List Char} (opens : Opens text) (blank : Space gap) :
    Opens (gap ++ text) := by
  rwa [Opens, skipSpace_append blank]

theorem Opens.length_pos {text : List Char} (opens : Opens text) : 0 < text.length := by
  obtain ⟨first, more, skipped, -⟩ := opens
  apply List.length_pos_iff.mpr
  rintro rfl
  cases skipped

theorem readRun_skipSpace (text : List Char) :
    readRun (readValue depth) fuel (skipSpace text) = readRun (readValue depth) fuel text := by
  rw [readRun, readRun, readValue_skipSpace]

theorem skipSpace_mark {gap : List Char} (blank : Space gap) {mark : Char} (solid : isSpace mark = false)
    (rest : List Char) : skipSpace (gap ++ mark :: rest) = mark :: rest := by
  rw [skipSpace_append blank, skipSpace_solid solid]

variable {value : Json} {values : List Json} {members : List (String × Json)} {key : String}
  {text : List Char}

def ReadsValue (value : Json) (text : List Char) : Prop :=
  ∀ depth rest, NestsWithin depth value → EndsNumber rest →
    readValue depth (text ++ rest) = .ok (value, rest)

/-- The text of an element is read up to the space in its end. -/
def ReadsElement (value : Json) (text : List Char) : Prop :=
  ∀ depth rest, NestsWithin depth value → EndsNumber rest →
    ∃ gap, Space gap ∧ readValue depth (text ++ rest) = .ok (value, gap ++ rest)

def ReadsItems (values : List Json) (text : List Char) : Prop :=
  ∀ depth fuel rest, (∀ value ∈ values, NestsWithin depth value) → values.length ≤ fuel →
    readRun (readValue depth) fuel (text ++ ']' :: rest) = .ok (values, rest)

def ReadsMember (key : String) (value : Json) (text : List Char) : Prop :=
  ∃ gap more, Space gap ∧ text = gap ++ '\x22' :: more ∧
    ∀ depth rest, NestsWithin depth value → EndsNumber rest →
      ∃ after, Space after ∧ readMember (readValue depth) (more ++ rest) = .ok ((key, value), after ++ rest)

def ReadsMembers (members : List (String × Json)) (text : List Char) : Prop :=
  ∃ gap more, Space gap ∧ text = gap ++ '\x22' :: more ∧
    ∀ depth fuel rest, (∀ member ∈ members, NestsWithin depth member.2) → members.length ≤ fuel →
      readMemberRun (readValue depth) fuel (more ++ '\x7d' :: rest) = .ok (members, rest)

theorem readsElement {before after : List Char} (leading : Space before) (read : ReadsValue value text)
    (trailing : Space after) : ReadsElement value (before ++ (text ++ after)) := by
  intro depth rest nests ends
  refine ⟨after, trailing, ?_⟩
  rw [List.append_assoc, List.append_assoc, readValue_append leading]
  exact read depth (after ++ rest) nests (ends.append trailing)

theorem readsItems_last (item : ReadsElement value text) : ReadsItems [value] text := by
  intro depth fuel rest nests room
  obtain ⟨gap, blank, read⟩ := item depth (']' :: rest) (nests value List.mem_cons_self)
    (endsNumber_cons (by decide) rest)
  cases fuel with
  | zero => cases room
  | succ fuel =>
    refine bind_eq_ok.mpr ⟨_, read, bind_eq_ok.mpr ⟨_, readItems_eq_ok.mpr (.close ?_), rfl⟩⟩
    exact skipSpace_mark blank (by decide) rest

theorem readsItems_next {rest : List Char} (item : ReadsElement value text) (opens : Opens rest)
    (others : ReadsItems values rest) : ReadsItems (value :: values) (text ++ ',' :: rest) := by
  intro depth fuel after nests room
  obtain ⟨first, later⟩ := List.forall_mem_cons.mp nests
  obtain ⟨gap, blank, read⟩ := item depth (',' :: (rest ++ ']' :: after)) first
    (endsNumber_cons (by decide) _)
  cases fuel with
  | zero => cases room
  | succ fuel =>
    have run := others depth fuel after later (Nat.le_of_succ_le_succ room)
    rw [← readRun_skipSpace] at run
    have next := readItems_eq_ok.mpr (.next (skipSpace_mark blank (by decide) _) (opens.append _) run)
    rw [List.append_assoc, List.cons_append]
    exact bind_eq_ok.mpr ⟨_, read, bind_eq_ok.mpr ⟨_, next, rfl⟩⟩

theorem readsMember {before spelling key after : List Char} (leading : Space before)
    (spelled : SpellsText spelling key) (trailing : Space after) (element : ReadsElement value text) :
    ReadsMember (String.ofList key) value
      (before ++ '\x22' :: (spelling ++ '\x22' :: (after ++ ':' :: text))) := by
  refine ⟨before, _, leading, rfl, ?_⟩
  intro depth rest nests ends
  obtain ⟨gap, blank, read⟩ := element depth rest nests ends
  refine ⟨gap, blank, ?_⟩
  have colon := readColon_eq_ok.mpr (skipSpace_mark trailing (by decide) (text ++ rest))
  have quoted := readText_of_spells spelled (after ++ ':' :: (text ++ rest))
  simp only [List.append_assoc, List.cons_append]
  exact bind_eq_ok.mpr ⟨_, quoted, bind_eq_ok.mpr ⟨_, colon, bind_eq_ok.mpr ⟨_, read, rfl⟩⟩⟩

theorem readsMembers_last (member : ReadsMember key value text) : ReadsMembers [(key, value)] text := by
  obtain ⟨before, more, leading, rfl, read⟩ := member
  refine ⟨before, more, leading, rfl, ?_⟩
  intro depth fuel rest nests room
  obtain ⟨gap, blank, done⟩ := read depth ('\x7d' :: rest) (nests (key, value) List.mem_cons_self)
    (endsNumber_cons (by decide) rest)
  cases fuel with
  | zero => cases room
  | succ fuel =>
    refine bind_eq_ok.mpr ⟨_, done, bind_eq_ok.mpr ⟨_, readMembers_eq_ok.mpr (.close ?_), rfl⟩⟩
    exact skipSpace_mark blank (by decide) rest

theorem readsMembers_next {rest : List Char} (member : ReadsMember key value text)
    (others : ReadsMembers members rest) :
    ReadsMembers ((key, value) :: members) (text ++ ',' :: rest) := by
  obtain ⟨before, more, leading, rfl, read⟩ := member
  obtain ⟨between, further, blanks, rfl, run⟩ := others
  refine ⟨before, more ++ ',' :: (between ++ '\x22' :: further), leading, by simp, ?_⟩
  intro depth fuel after nests room
  obtain ⟨first, later⟩ := List.forall_mem_cons.mp nests
  obtain ⟨gap, blank, done⟩ := read depth (',' :: (between ++ '\x22' :: (further ++ '\x7d' :: after))) first
    (endsNumber_cons (by decide) _)
  cases fuel with
  | zero => cases room
  | succ fuel =>
    have rest := run depth fuel after later (Nat.le_of_succ_le_succ room)
    have next := readMembers_eq_ok.mpr (.next (skipSpace_mark blank (by decide) _)
      (skipSpace_mark blanks (by decide) _) rest)
    simp only [List.append_assoc, List.cons_append]
    exact bind_eq_ok.mpr ⟨_, done, bind_eq_ok.mpr ⟨_, next, rfl⟩⟩

theorem readsValue_scalar {first : Char} {more : List Char} (solid : isSpace first = false)
    (noArray : first ≠ '[') (noObject : first ≠ '\x7b')
    (read : ∀ rest, EndsNumber rest → readScalar (first :: more ++ rest) = .ok (value, rest)) :
    ReadsValue value (first :: more) := by
  intro depth rest _ ends
  rw [readValue, List.cons_append, skipSpace_solid solid, ← read rest ends]
  split
  next same => exact absurd (List.cons.inj same).1 noArray
  next same => exact absurd (List.cons.inj same).1 noObject
  next => rfl

theorem readValue_array (rest : List Char) : readValue (depth + 1) ('[' :: rest) = (do
    let (items, rest) ← readItems (readValue depth) (rest.length + 1) true rest
    return (.array items, rest)) := by
  rw [readValue, skipSpace_solid (by decide)]
  rfl

theorem readValue_object (rest : List Char) : readValue (depth + 1) ('\x7b' :: rest) = (do
    let (members, rest) ← readMembers (readValue depth) (rest.length + 1) true rest
    return (.object members, rest)) := by
  rw [readValue, skipSpace_solid (by decide)]
  rfl

theorem readsValue_emptyArray {between : List Char} (blank : Space between) :
    ReadsValue (.array []) ('[' :: (between ++ [']'])) := by
  intro depth rest nests _
  cases nests
  rw [List.cons_append, List.append_assoc, readValue_array]
  refine bind_eq_ok.mpr ⟨_, readItems_eq_ok.mpr (.close ?_), rfl⟩
  exact skipSpace_mark blank (by decide) rest

theorem readsValue_array (items : ReadsItems values text) (opens : Opens text)
    (few : values.length ≤ text.length) : ReadsValue (.array values) ('[' :: (text ++ [']'])) := by
  intro depth rest nests _
  cases nests with
  | array each =>
    have read := items _ (text ++ ']' :: rest).length rest each (by rw [List.length_append]; omega)
    rw [← readRun_skipSpace] at read
    rw [List.cons_append, List.append_assoc, readValue_array]
    exact bind_eq_ok.mpr ⟨_, readItems_eq_ok.mpr (.first (opens.append _) read), rfl⟩

theorem readsValue_emptyObject {between : List Char} (blank : Space between) :
    ReadsValue (.object []) ('\x7b' :: (between ++ ['\x7d'])) := by
  intro depth rest nests _
  cases nests
  rw [List.cons_append, List.append_assoc, readValue_object]
  refine bind_eq_ok.mpr ⟨_, readMembers_eq_ok.mpr (.close ?_), rfl⟩
  exact skipSpace_mark blank (by decide) rest

theorem readsValue_object (written : ReadsMembers members text) (few : members.length ≤ text.length) :
    ReadsValue (.object members) ('\x7b' :: (text ++ ['\x7d'])) := by
  intro depth rest nests _
  obtain ⟨gap, more, blank, rfl, read⟩ := written
  cases nests with
  | object each =>
    have run := read _ (gap ++ '\x22' :: (more ++ '\x7d' :: rest)).length rest each (by
      simp only [List.length_append, List.length_cons] at few ⊢
      omega)
    simp only [List.cons_append, List.append_assoc, readValue_object]
    have first := readMembers_eq_ok.mpr (.first (skipSpace_mark blank (by decide) _) run)
    exact bind_eq_ok.mpr ⟨_, first, rfl⟩

theorem signedNumeral_head (value : Int) : ∃ first more, signedNumeral value = first :: more ∧
    isSpace first = false ∧ first ≠ ']' ∧ first ≠ '[' ∧ first ≠ '\x7b' := by
  cases value with
  | ofNat number =>
    obtain ⟨first, more, written⟩ := List.exists_cons_of_ne_nil (numeral_ne_nil number)
    have other : ∀ {mark : Char}, isDigit mark = false → first ≠ mark := by
      rintro mark none rfl
      exact notMem_numeral none number (written ▸ List.mem_cons_self)
    refine ⟨first, more, written, ?_, other rfl, other rfl, other rfl⟩
    simp only [isSpace, Bool.or_eq_false_iff, beq_eq_false_iff_ne]
    exact ⟨⟨⟨other rfl, other rfl⟩, other rfl⟩, other rfl⟩
  | negSucc number => exact ⟨'-', numeral (number + 1), rfl, by decide⟩

/-- What a text of a phrase is read as, and what reading has to know about the text. -/
def Phrase.Read : Phrase → List Char → Prop
  | .value part, text => Opens text ∧ ReadsValue part text
  | .element part, text => Opens text ∧ ReadsElement part text
  | .items parts, text => Opens text ∧ parts.length ≤ text.length ∧ ReadsItems parts text
  | .member key part, text => ReadsMember key part text
  | .members parts, text => parts.length ≤ text.length ∧ ReadsMembers parts text

theorem ReadsMember.length_pos (read : ReadsMember key value text) : 0 < text.length := by
  obtain ⟨gap, more, -, rfl, -⟩ := read
  rw [List.length_append, List.length_cons]
  omega

/-- Every text that the grammar writes is read as the value it writes. -/
theorem Writes.read {phrase : Phrase} {text : List Char} (written : Writes Space phrase text) :
    phrase.Read text := by
  induction written with
  | null =>
    exact ⟨opens_cons (by decide) (by decide) _,
      readsValue_scalar (by decide) (by decide) (by decide) fun _ _ => rfl⟩
  | boolean value =>
    cases value with
    | true =>
      exact ⟨opens_cons (by decide) (by decide) _,
        readsValue_scalar (by decide) (by decide) (by decide) fun _ _ => rfl⟩
    | false =>
      exact ⟨opens_cons (by decide) (by decide) _,
        readsValue_scalar (by decide) (by decide) (by decide) fun _ _ => rfl⟩
  | @integer value exact =>
    obtain ⟨first, more, whole, solid, isOpen, noArray, noObject⟩ := signedNumeral_head value
    have read := fun rest => @readScalar_signedNumeral rest value exact
    rw [whole] at read ⊢
    exact ⟨opens_cons solid isOpen more, readsValue_scalar solid noArray noObject read⟩
  | @string spelling text spelled =>
    refine ⟨opens_cons (by decide) (by decide) _,
      readsValue_scalar (by decide) (by decide) (by decide) fun rest _ => ?_⟩
    have read := readText_of_spells spelled rest
    rw [List.cons_append, List.append_assoc]
    exact bind_eq_ok.mpr ⟨_, read, rfl⟩
  | emptyArray blank => exact ⟨opens_cons (by decide) (by decide) _, readsValue_emptyArray blank⟩
  | array _ ih =>
    obtain ⟨opens, few, read⟩ := ih
    exact ⟨opens_cons (by decide) (by decide) _, readsValue_array read opens few⟩
  | emptyObject blank => exact ⟨opens_cons (by decide) (by decide) _, readsValue_emptyObject blank⟩
  | object _ ih =>
    obtain ⟨few, read⟩ := ih
    exact ⟨opens_cons (by decide) (by decide) _, readsValue_object read few⟩
  | @element _ before _ after leading _ trailing ih =>
    exact ⟨(ih.1.append after).afterSpace leading, readsElement leading ih.2 trailing⟩
  | lastItem _ ih => exact ⟨ih.1, ih.1.length_pos, readsItems_last ih.2⟩
  | nextItem _ _ first others =>
    obtain ⟨opens, few, read⟩ := others
    refine ⟨first.1.append _, ?_, readsItems_next first.2 opens read⟩
    rw [List.length_append, List.length_cons, List.length_cons]
    omega
  | member leading spelled trailing _ ih => exact readsMember leading spelled trailing ih.2
  | lastMember _ ih => exact ⟨ih.length_pos, readsMembers_last ih⟩
  | nextMember _ _ first others =>
    obtain ⟨few, read⟩ := others
    refine ⟨?_, readsMembers_next first read⟩
    rw [List.length_append, List.length_cons, List.length_cons]
    omega

theorem readValue_of_writes (written : Writes Space (.element value) text)
    (nests : NestsWithin depth value) : ∃ gap, Space gap ∧ readValue depth text = .ok (value, gap) := by
  obtain ⟨-, read⟩ := written.read
  obtain ⟨gap, blank, done⟩ := read depth [] nests (by intro next head; cases head)
  rw [List.append_nil, List.append_nil] at done
  exact ⟨gap, blank, done⟩

theorem readAll_of_writes (written : Writes Space (.element value) text)
    (nests : NestsWithin maxDepth value) : readAll text = .ok value := by
  obtain ⟨gap, blank, done⟩ := readValue_of_writes written nests
  refine bind_eq_ok.mpr ⟨_, done, ?_⟩
  have nothing : skipSpace (gap ++ []) = [] := skipSpace_append blank []
  rw [List.append_nil] at nothing
  dsimp only
  rw [nothing]
  rfl

end TypeBridge.Json
