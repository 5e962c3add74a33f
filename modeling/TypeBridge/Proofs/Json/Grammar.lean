import TypeBridge.Proofs.Json.Number
import TypeBridge.Proofs.Json.Text

/-!
The grammar of JSON text, as far as its numbers are whole and of 64 bits. It says which texts write a value,
given what may stand between the parts of a text: blanks, or nothing at all. Every member of an object
counts, in its place, also one with a key that was there before.
-/
namespace TypeBridge.Json

open TypeBridge.Text

def Space (text : List Char) : Prop := ∀ character ∈ text, character ∈ [' ', '\n', '\t', '\r']

def NoSpace (text : List Char) : Prop := text = []

theorem noSpace_nil : NoSpace [] := rfl

/-- The parts of a text. An element is a value with the space around it. -/
inductive Phrase where
  | value (value : Json)
  | element (value : Json)
  | items (values : List Json)
  | member (key : String) (value : Json)
  | members (members : List (String × Json))

/-- The texts of a phrase, where a `gap` may stand between its parts. -/
inductive Writes (gap : List Char → Prop) : Phrase → List Char → Prop where
  | null : Writes gap (.value .null) ['n', 'u', 'l', 'l']
  | boolean (value : Bool) :
      Writes gap (.value (.boolean value)) (if value then "true" else "false").toList
  | integer {value : Int} (exact : Exact value) :
      Writes gap (.value (.integer value)) (signedNumeral value)
  | string {spelling text : List Char} (spelled : SpellsText spelling text) :
      Writes gap (.value (.string (String.ofList text))) ('\x22' :: (spelling ++ ['\x22']))
  | emptyArray {between : List Char} (blank : gap between) :
      Writes gap (.value (.array [])) ('[' :: (between ++ [']']))
  | array {values : List Json} {inner : List Char} (items : Writes gap (.items values) inner) :
      Writes gap (.value (.array values)) ('[' :: (inner ++ [']']))
  | emptyObject {between : List Char} (blank : gap between) :
      Writes gap (.value (.object [])) ('\x7b' :: (between ++ ['\x7d']))
  | object {members : List (String × Json)} {inner : List Char}
      (written : Writes gap (.members members) inner) :
      Writes gap (.value (.object members)) ('\x7b' :: (inner ++ ['\x7d']))
  | element {value : Json} {before text after : List Char} (leading : gap before)
      (written : Writes gap (.value value) text) (trailing : gap after) :
      Writes gap (.element value) (before ++ (text ++ after))
  | lastItem {value : Json} {text : List Char} (item : Writes gap (.element value) text) :
      Writes gap (.items [value]) text
  | nextItem {value : Json} {values : List Json} {text rest : List Char}
      (item : Writes gap (.element value) text) (others : Writes gap (.items values) rest) :
      Writes gap (.items (value :: values)) (text ++ ',' :: rest)
  | member {value : Json} {before spelling key after text : List Char} (leading : gap before)
      (spelled : SpellsText spelling key) (trailing : gap after)
      (written : Writes gap (.element value) text) :
      Writes gap (.member (String.ofList key) value)
        (before ++ '\x22' :: (spelling ++ '\x22' :: (after ++ ':' :: text)))
  | lastMember {key : String} {value : Json} {text : List Char}
      (member : Writes gap (.member key value) text) : Writes gap (.members [(key, value)]) text
  | nextMember {key : String} {value : Json} {members : List (String × Json)} {text rest : List Char}
      (member : Writes gap (.member key value) text) (others : Writes gap (.members members) rest) :
      Writes gap (.members ((key, value) :: members)) (text ++ ',' :: rest)

/-- All numbers in a value are whole, and of 64 bits. -/
inductive IsWhole : Json → Prop where
  | null : IsWhole .null
  | boolean (value : Bool) : IsWhole (.boolean value)
  | integer {value : Int} (exact : Exact value) : IsWhole (.integer value)
  | string (value : String) : IsWhole (.string value)
  | array {items : List Json} (each : ∀ item ∈ items, IsWhole item) : IsWhole (.array items)
  | object {members : List (String × Json)} (each : ∀ member ∈ members, IsWhole member.2) :
      IsWhole (.object members)

/-- Brackets are nested in a value no more than `depth` deep. -/
inductive NestsWithin : Nat → Json → Prop where
  | null {depth : Nat} : NestsWithin depth .null
  | boolean {depth : Nat} (value : Bool) : NestsWithin depth (.boolean value)
  | integer {depth : Nat} (value : Int) : NestsWithin depth (.integer value)
  | string {depth : Nat} (value : String) : NestsWithin depth (.string value)
  | array {depth : Nat} {items : List Json} (each : ∀ item ∈ items, NestsWithin depth item) :
      NestsWithin (depth + 1) (.array items)
  | object {depth : Nat} {members : List (String × Json)}
      (each : ∀ member ∈ members, NestsWithin depth member.2) : NestsWithin (depth + 1) (.object members)

def Phrase.IsWhole : Phrase → Prop
  | .value part | .element part | .member _ part => part.IsWhole
  | .items parts => ∀ part ∈ parts, part.IsWhole
  | .members parts => ∀ part ∈ parts, part.2.IsWhole

theorem Writes.isWhole {gap : List Char → Prop} {phrase : Phrase} {text : List Char}
    (written : Writes gap phrase text) : phrase.IsWhole := by
  induction written with
  | null => exact Json.IsWhole.null
  | boolean value => exact Json.IsWhole.boolean value
  | integer exact => exact Json.IsWhole.integer exact
  | string => exact Json.IsWhole.string _
  | emptyArray => exact Json.IsWhole.array (by simp)
  | emptyObject => exact Json.IsWhole.object (by simp)
  | array _ ih => exact Json.IsWhole.array ih
  | object _ ih => exact Json.IsWhole.object ih
  | element _ _ _ ih => exact ih
  | member _ _ _ _ ih => exact ih
  | lastItem _ ih => simpa only [Phrase.IsWhole, List.forall_mem_singleton] using ih
  | lastMember _ ih => simpa only [Phrase.IsWhole, List.forall_mem_singleton] using ih
  | nextItem _ _ first others =>
    simp only [Phrase.IsWhole, List.forall_mem_cons]
    exact ⟨first, others⟩
  | nextMember _ _ first others =>
    simp only [Phrase.IsWhole, List.forall_mem_cons]
    exact ⟨first, others⟩

/-- What is written with less between its parts is written with more as well. -/
theorem Writes.mono {gap wide : List Char → Prop} (wider : ∀ text, gap text → wide text) {phrase : Phrase}
    {text : List Char} (written : Writes gap phrase text) : Writes wide phrase text := by
  induction written with
  | null => exact .null
  | boolean value => exact .boolean value
  | integer exact => exact .integer exact
  | string spelled => exact .string spelled
  | emptyArray blank => exact .emptyArray (wider _ blank)
  | array _ ih => exact .array ih
  | emptyObject blank => exact .emptyObject (wider _ blank)
  | object _ ih => exact .object ih
  | element leading _ trailing ih => exact .element (wider _ leading) ih (wider _ trailing)
  | lastItem _ ih => exact .lastItem ih
  | nextItem _ _ first others => exact .nextItem first others
  | member leading spelled trailing _ ih => exact .member (wider _ leading) spelled (wider _ trailing) ih
  | lastMember _ ih => exact .lastMember ih
  | nextMember _ _ first others => exact .nextMember first others

theorem writes_textChars {gap : List Char → Prop} (text : String) :
    Writes gap (.value (.string text)) (textChars text) := by
  have written := @Writes.string gap _ _ (spellsText_escaped text.toList)
  rwa [String.ofList_toList] at written

theorem writes_element {value : Json} {text : List Char} (written : Writes NoSpace (.value value) text) :
    Writes NoSpace (.element value) text := by
  have element := Writes.element noSpace_nil written noSpace_nil
  rwa [List.append_nil, List.nil_append] at element

theorem writes_member {key : String} {value : Json} {text : List Char}
    (written : Writes NoSpace (.value value) text) :
    Writes NoSpace (.member key value) (textChars key ++ ':' :: text) := by
  have member := Writes.member noSpace_nil (spellsText_escaped key.toList) noSpace_nil
    (writes_element written)
  rw [String.ofList_toList] at member
  simpa only [textChars, List.nil_append, List.cons_append, List.append_assoc, List.singleton_append] using
    member

theorem writes_items {item : Json} {rest : List Json}
    (each : ∀ value ∈ item :: rest, Writes NoSpace (.value value) value.chars) :
    ∃ inner, Writes NoSpace (.items (item :: rest)) inner ∧
      item.chars ++ itemChars rest = inner ++ [']'] := by
  induction rest generalizing item with
  | nil =>
    have single := each item List.mem_cons_self
    exact ⟨item.chars, .lastItem (writes_element single), by rw [itemChars]⟩
  | cons next rest ih =>
    have first := each item List.mem_cons_self
    obtain ⟨inner, others, ends⟩ := ih fun value member => each value (List.mem_cons_of_mem _ member)
    refine ⟨item.chars ++ ',' :: inner, .nextItem (writes_element first) others, ?_⟩
    rw [itemChars, ends, List.append_assoc]
    rfl

theorem writes_members {key : String} {value : Json} {rest : List (String × Json)}
    (each : ∀ member ∈ (key, value) :: rest, Writes NoSpace (.value member.2) member.2.chars) :
    ∃ inner, Writes NoSpace (.members ((key, value) :: rest)) inner ∧
      textChars key ++ ':' :: (value.chars ++ memberChars rest) = inner ++ ['\x7d'] := by
  induction rest generalizing key value with
  | nil =>
    have single := each (key, value) List.mem_cons_self
    refine ⟨_, .lastMember (writes_member single), ?_⟩
    rw [memberChars, List.append_assoc]
    rfl
  | cons next rest ih =>
    have first := each (key, value) List.mem_cons_self
    obtain ⟨inner, others, ends⟩ := ih fun member within => each member (List.mem_cons_of_mem _ within)
    refine ⟨_, .nextMember (writes_member first) others, ?_⟩
    rw [memberChars, ends]
    simp only [List.append_assoc, List.cons_append]

theorem writes_chars {value : Json} (whole : value.IsWhole) :
    Writes NoSpace (.value value) value.chars := by
  induction whole with
  | null => exact .null
  | boolean value => exact .boolean value
  | integer exact => exact .integer exact
  | string value => exact writes_textChars value
  | @array items _ each =>
    cases items with
    | nil => exact .emptyArray noSpace_nil
    | cons item rest =>
      obtain ⟨inner, written, ends⟩ := writes_items each
      rw [chars, ends]
      exact .array written
  | @object members _ each =>
    cases members with
    | nil => exact .emptyObject noSpace_nil
    | cons member rest =>
      obtain ⟨inner, written, ends⟩ := writes_members each
      rw [chars, ends]
      exact .object written

/-- The text is a document that writes the value, with whole 64-bit numbers only. -/
def Denotes (text : String) (value : Json) : Prop := Writes Space (.element value) text.toList

def DenotesCompactly (text : String) (value : Json) : Prop := Writes NoSpace (.element value) text.toList

variable {text : String} {value : Json}

theorem Denotes.isWhole (denotes : Denotes text value) : value.IsWhole := Writes.isWhole denotes

theorem DenotesCompactly.denotes (compactly : DenotesCompactly text value) : Denotes text value := by
  apply compactly.mono
  rintro gap rfl
  simp [Space]

theorem denotesCompactly_compact (whole : value.IsWhole) : DenotesCompactly value.compact value := by
  have written := writes_element (writes_chars whole)
  rwa [DenotesCompactly, compact, String.toList_ofList]

end TypeBridge.Json
