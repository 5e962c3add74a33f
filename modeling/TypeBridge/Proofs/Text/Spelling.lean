import Mathlib.Data.List.DropRight
import TypeBridge.Text.Blank
import TypeBridge.Text.Case

/-!
Spellings of a text. ASCII letters may be capitals or not, and blanks may stand around the text; what is left
once the text is trimmed and folded is the same in every spelling.
-/
namespace TypeBridge.Text

def capitals : List Char := "ABCDEFGHIJKLMNOPQRSTUVWXYZ".toList

def SameLetters (text other : List Char) : Prop := text.map Char.toLower = other.map Char.toLower

instance (text other : List Char) : Decidable (SameLetters text other) :=
  inferInstanceAs (Decidable (_ = _))

theorem toLower_eq_or_mem (character : Char) :
    character.toLower = character ∨ character ∈ capitals := by
  by_cases capital : character.val ≥ 'A'.val ∧ character.val ≤ 'Z'.val
  · right
    have all : ∀ code < 26, Char.ofNat (65 + code) ∈ capitals := by decide
    have first : 65 ≤ character.toNat := UInt32.le_iff_toNat_le.mp capital.1
    have last : character.toNat ≤ 90 := UInt32.le_iff_toNat_le.mp capital.2
    have member := all (character.toNat - 65) (by omega)
    rwa [Nat.add_sub_cancel' first, Char.ofNat_toNat] at member
  · exact .inl (dif_neg capital)

/-- What holds of all capitals and their small letters holds of every character. -/
theorem of_toLower (related : Char → Char → Prop) [∀ small letter, Decidable (related small letter)]
    (same : ∀ character, related character character)
    (letters : capitals.all fun capital => related capital.toLower capital) (character : Char) :
    related character.toLower character := by
  rcases toLower_eq_or_mem character with fixed | capital
  · rw [fixed]
    exact same character
  · exact of_decide_eq_true (List.all_eq_true.mp letters character capital)

theorem isBlank_toLower (character : Char) : isBlank character.toLower = isBlank character :=
  of_toLower (fun small letter => isBlank small = isBlank letter) (fun _ => rfl) (by decide)
    character

theorem isCased_toLower (character : Char) : isCased character.toLower = isCased character :=
  of_toLower (fun small letter => isCased small = isCased letter) (fun _ => rfl) (by decide)
    character

theorem isCaseIgnorable_toLower (character : Char) :
    isCaseIgnorable character.toLower = isCaseIgnorable character :=
  of_toLower (fun small letter => isCaseIgnorable small = isCaseIgnorable letter) (fun _ => rfl)
    (by decide) character

theorem lowerChar_toLower (character : Char) : lowerChar character.toLower = lowerChar character :=
  of_toLower (fun small letter => lowerChar small = lowerChar letter) (fun _ => rfl) (by decide)
    character

theorem toLower_eq_sigma {character : Char} : character.toLower = 'Σ' ↔ character = 'Σ' :=
  of_toLower (fun small letter => small = 'Σ' ↔ letter = 'Σ') (fun _ => Iff.rfl) (by decide)
    character

theorem reachesCased_toLower (text : List Char) :
    reachesCased (text.map Char.toLower) = reachesCased text := by
  have ignored : isCaseIgnorable ∘ Char.toLower = isCaseIgnorable :=
    funext isCaseIgnorable_toLower
  unfold reachesCased
  rw [List.dropWhile_map, ignored]
  cases text.dropWhile isCaseIgnorable with
  | nil => rfl
  | cons first rest => exact isCased_toLower first

/-- The letters around a sigma decide about it in either case. -/
theorem lowerFrom_toLower (before text : List Char) :
    lowerFrom (before.map Char.toLower) (text.map Char.toLower) = lowerFrom before text := by
  induction text generalizing before with
  | nil => rfl
  | cons first rest ih =>
    have later := ih (first :: before)
    by_cases sigma : first = 'Σ'
    · subst sigma
      have small : Char.toLower 'Σ' = 'Σ' := rfl
      rw [List.map_cons, small] at later ⊢
      simp only [lowerFrom, reachesCased_toLower, later]
    · have other : first.toLower ≠ 'Σ' := mt toLower_eq_sigma.mp sigma
      rw [List.map_cons] at later ⊢
      rw [lowerFrom, lowerFrom, later, lowerChar_toLower]
      · exact sigma
      · exact other

theorem lowercase_toLower (text : List Char) : lowercase (text.map Char.toLower) = lowercase text :=
  lowerFrom_toLower [] text

theorem lowercase_congr {text other : List Char} (same : SameLetters text other) :
    lowercase text = lowercase other := by
  rw [← lowercase_toLower text, ← lowercase_toLower other, same]

theorem lowercase_self {text : List Char}
    (small : ∀ character ∈ text, isAscii character = true ∧ character.toLower = character) :
    lowercase text = text := by
  have each (before : List Char) : lowerFrom before text = text := by
    induction text generalizing before with
    | nil => rfl
    | cons first rest ih =>
      obtain ⟨ascii, same⟩ := small first List.mem_cons_self
      have other : first ≠ 'Σ' := by
        rintro rfl
        cases ascii
      rw [lowerFrom, ih (fun character member => small character (List.mem_cons_of_mem _ member)), lowerChar,
        if_pos ascii, same]
      · rfl
      · exact other
  exact each []

variable {text : List Char}

theorem dropEndWhile_append_of_all {drops : Char → Bool} {after : List Char}
    (all : ∀ character ∈ after, drops character = true) :
    dropEndWhile drops (text ++ after) = dropEndWhile drops text := by
  unfold dropEndWhile
  rw [List.reverse_append, List.dropWhile_append_of_pos]
  intro character member
  exact all character (List.mem_reverse.mp member)

theorem trim_append_left {before : List Char} (blank : ∀ character ∈ before, isBlank character = true) :
    trim (before ++ text) = trim text := by
  unfold trim trimStart
  rw [List.dropWhile_append_of_pos blank]

theorem trim_append_right {after : List Char} (blank : ∀ character ∈ after, isBlank character = true) :
    trim (text ++ after) = trim text := by
  unfold trim trimStart trimEnd
  rw [List.dropWhile_append]
  split
  next empty =>
    have gone := @List.dropWhile_append_of_pos _ _ _ [] blank
    rw [List.append_nil] at gone
    rw [List.isEmpty_iff.mp empty, gone]
    rfl
  next => exact dropEndWhile_append_of_all blank

theorem trimEnd_self (last : ∀ character ∈ text.getLast?, isBlank character = false) :
    trimEnd text = text := by
  refine List.rdropWhile_eq_self_iff.mpr fun present => ?_
  rw [last _ (List.getLast_mem_getLast? present)]
  exact Bool.false_ne_true

theorem trim_self (first : ∀ character ∈ text.head?, isBlank character = false)
    (last : ∀ character ∈ text.getLast?, isBlank character = false) : trim text = text := by
  have start : trimStart text = text := by
    cases text with
    | nil => rfl
    | cons front rest =>
      rw [trimStart, List.dropWhile_cons_of_neg]
      rw [first front rfl]
      exact Bool.false_ne_true
  rw [trim, start, trimEnd_self last]

theorem trim_of_solid (solid : ∀ character ∈ text, isBlank character = false) : trim text = text :=
  trim_self (fun first begins => solid first (List.mem_of_mem_head? begins))
    fun last ends => solid last (List.mem_of_mem_getLast? ends)

theorem trim_toLower (text : List Char) : trim (text.map Char.toLower) = (trim text).map Char.toLower := by
  have blank : isBlank ∘ Char.toLower = isBlank := funext isBlank_toLower
  unfold trim trimEnd trimStart dropEndWhile
  rw [List.dropWhile_map, blank, ← List.map_reverse, List.dropWhile_map, blank, List.map_reverse]

/-- Another spelling of a text: with other blanks around it and ASCII letters in another case. -/
inductive Respells (text : List Char) : List Char → Prop where
  | mk {before inner after : List Char} (leading : before.all isBlank) (letters : SameLetters text inner)
      (trailing : after.all isBlank) : Respells text (before ++ inner ++ after)

/-- What is folded after trimming is the same in every spelling. -/
theorem folded_of_respells {other : List Char} (respells : Respells text other) :
    lowercase (trim other) = lowercase (trim text) := by
  obtain ⟨leading, letters, trailing⟩ := respells
  rw [trim_append_right (List.all_eq_true.mp trailing), trim_append_left (List.all_eq_true.mp leading)]
  apply lowercase_congr
  unfold SameLetters
  rw [← trim_toLower, ← trim_toLower, letters]

end TypeBridge.Text
