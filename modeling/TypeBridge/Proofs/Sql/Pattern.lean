import TypeBridge.Sql.Name
import Mathlib.Data.List.Infix

/-!
Search patterns as a backend reads them. A percent sign stands for any text and an underscore for any one
character, but the character after an escape stands for itself, whatever it is. The pattern of an escaped
name finds that name and no other.
-/
namespace TypeBridge.Sql

inductive PatternItem where
  | anyText
  | anyCharacter
  | exactly (character : Char)
  deriving DecidableEq

namespace PatternItem

def ofCharacter (character : Char) : PatternItem :=
  if character = '%' then anyText
  else if character = '_' then anyCharacter
  else exactly character

inductive Matches : List PatternItem → List Char → Prop where
  | done : Matches [] []
  | anyText {items : List PatternItem} {text : List Char} (skipped : List Char)
      (rest : Matches items text) : Matches (anyText :: items) (skipped ++ text)
  | anyCharacter {items : List PatternItem} {text : List Char} (character : Char)
      (rest : Matches items text) : Matches (anyCharacter :: items) (character :: text)
  | exactly {items : List PatternItem} {text : List Char} (character : Char)
      (rest : Matches items text) : Matches (exactly character :: items) (character :: text)

/-- Whether a text matches, where the text of a percent sign may end at any place. -/
def fits : List PatternItem → List Char → Bool
  | [], text => text.isEmpty
  | anyText :: items, text => text.tails.any (fits items)
  | _ :: _, [] => false
  | anyCharacter :: items, _ :: text => fits items text
  | exactly character :: items, first :: text => character == first && fits items text

theorem fits_eq_true {items : List PatternItem} {text : List Char} :
    fits items text = true ↔ Matches items text := by
  induction items generalizing text with
  | nil =>
    constructor
    · intro empty
      cases text with
      | nil => exact .done
      | cons => cases empty
    · intro matched
      cases matched
      rfl
  | cons item items ih =>
    cases item with
    | anyText =>
      constructor
      · intro found
        obtain ⟨rest, ends, fitting⟩ := List.any_eq_true.mp found
        obtain ⟨skipped, rfl⟩ := (List.mem_tails _ _).mp ends
        exact .anyText skipped (ih.mp fitting)
      · intro matched
        cases matched with
        | anyText skipped rest =>
          exact List.any_eq_true.mpr
            ⟨_, (List.mem_tails _ _).mpr (List.suffix_append skipped _), ih.mpr rest⟩
    | anyCharacter =>
      cases text with
      | nil => exact ⟨nofun, nofun⟩
      | cons first text =>
        constructor
        · intro fitting
          exact .anyCharacter first (ih.mp fitting)
        · intro matched
          cases matched with
          | anyCharacter _ rest => exact ih.mpr rest
    | exactly character =>
      cases text with
      | nil => exact ⟨nofun, nofun⟩
      | cons first text =>
        constructor
        · intro fitting
          obtain ⟨same, rest⟩ := Bool.and_eq_true_iff.mp fitting
          cases eq_of_beq same
          exact .exactly character (ih.mp rest)
        · intro matched
          cases matched with
          | exactly _ rest => exact Bool.and_eq_true_iff.mpr ⟨beq_self_eq_true _, ih.mpr rest⟩

instance (items : List PatternItem) (text : List Char) : Decidable (Matches items text) :=
  decidable_of_iff (fits items text = true) fits_eq_true

theorem matches_exactly {name text : List Char} : Matches (name.map exactly) text ↔ text = name := by
  induction name generalizing text with
  | nil =>
    constructor
    · intro matched
      cases matched
      rfl
    · rintro rfl
      exact .done
  | cons character name ih =>
    constructor
    · intro matched
      cases matched with
      | exactly _ rest => rw [ih.mp rest]
    · rintro rfl
      exact .exactly character (ih.mpr rfl)

end PatternItem

/-- A pattern item by item. An escape that nothing follows stands for itself. -/
def patternItems (escape : Char) : List Char → List PatternItem
  | [] => []
  | character :: rest =>
    if character = escape then
      match rest with
      | [] => [.exactly escape]
      | next :: rest => .exactly next :: patternItems escape rest
    else .ofCharacter character :: patternItems escape rest

theorem patternItems_escaped (escape next : Char) (rest : List Char) :
    patternItems escape (escape :: next :: rest) = .exactly next :: patternItems escape rest :=
  if_pos rfl

theorem patternItems_plain {escape character : Char} (other : character ≠ escape)
    (percent : character ≠ '%') (underscore : character ≠ '_') (rest : List Char) :
    patternItems escape (character :: rest) = .exactly character :: patternItems escape rest := by
  have plain : PatternItem.ofCharacter character = .exactly character := by
    unfold PatternItem.ofCharacter
    rw [if_neg percent, if_neg underscore]
  rw [patternItems.eq_def]
  dsimp only
  rw [if_neg other, plain]

/-- Escaping leaves no wildcard, also where the escape itself is one. -/
theorem patternItems_escapePattern (escape : Char) (name : String) :
    patternItems escape (escapePattern (.singleton escape) name).toList =
      name.toList.map .exactly := by
  unfold escapePattern
  rw [String.toList_ofList, String.toList_singleton]
  induction name.toList with
  | nil => rfl
  | cons character rest ih =>
    rw [List.flatMap_cons, List.map_cons, ← ih]
    split
    next special => exact patternItems_escaped ..
    next plain =>
      simp only [Bool.or_eq_true, beq_iff_eq, List.cons.injEq, and_true, not_or] at plain
      obtain ⟨⟨underscore, percent⟩, other⟩ := plain
      exact patternItems_plain (Ne.symm other) percent underscore _

def Like (escape : Char) (pattern text : String) : Prop :=
  PatternItem.Matches (patternItems escape pattern.toList) text.toList

instance (escape : Char) (pattern text : String) : Decidable (Like escape pattern text) :=
  inferInstanceAs (Decidable (PatternItem.Matches _ _))

/-- The pattern of a name finds that name only. -/
theorem like_escapePattern (escape : Char) (name text : String) :
    Like escape (escapePattern (.singleton escape) name) text ↔ text = name := by
  unfold Like
  rw [patternItems_escapePattern, PatternItem.matches_exactly, String.toList_inj]

/-- An underscore that is not escaped finds other names too. -/
example : Like '\\' "my_db" "my-db" ∧ ¬Like '\\' "my\\_db" "my-db" := by decide

end TypeBridge.Sql
