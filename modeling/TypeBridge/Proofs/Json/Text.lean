import TypeBridge.Json.Writer
import TypeBridge.Json.Reader
import TypeBridge.Proofs.Outcome

/-!
The spellings of a text in JSON. A character stands for itself or is escaped: by a letter, by the four
hexadecimal digits of its code, or by those of the two halves of a surrogate pair. Every spelling is read
as its text, and nothing else is read; what is written is one of the spellings.
-/
namespace TypeBridge.Json

open TypeBridge.Text

def HexDigit (character : Char) (value : Nat) : Prop :=
  value < 16 ∧ (character = Nat.digitChar value ∨ character = (Nat.digitChar value).toUpper)

structure HexUnit (first second third fourth : Char) (unit : Nat) : Prop where
  first : HexDigit first (unit / 4096)
  second : HexDigit second (unit / 256 % 16)
  third : HexDigit third (unit / 16 % 16)
  fourth : HexDigit fourth (unit % 16)

theorem hexValue?_digitChar : ∀ value < 16, hexValue? (Nat.digitChar value) = some value ∧
    hexValue? (Nat.digitChar value).toUpper = some value := by decide

theorem hexDigit_ofNat : ∀ value < 16, HexDigit (Char.ofNat (if value < 10 then 0x30 + value
    else 0x57 + value)) value ∧ HexDigit (Char.ofNat (if value < 10 then 0x30 + value
    else 0x37 + value)) value := by
  unfold HexDigit
  decide

theorem hexValue?_eq_some {character : Char} {value : Nat} :
    hexValue? character = some value ↔ HexDigit character value := by
  constructor
  · intro h
    have same := character.ofNat_toNat
    simp only [hexValue?, isDigit, Bool.and_eq_true, decide_eq_true_eq] at h
    split at h
    next digit =>
      cases h
      have spelled := (hexDigit_ofNat (character.toNat - 0x30) (by omega)).1
      rw [if_pos (by omega)] at spelled
      have code : 0x30 + (character.toNat - 0x30) = character.toNat := by omega
      rwa [code, same] at spelled
    next =>
      split at h
      next small =>
        cases h
        have spelled := (hexDigit_ofNat (character.toNat - 0x61 + 10) (by omega)).1
        rw [if_neg (by omega)] at spelled
        have code : 0x57 + (character.toNat - 0x61 + 10) = character.toNat := by omega
        rwa [code, same] at spelled
      next =>
        split at h
        next capital =>
          cases h
          have spelled := (hexDigit_ofNat (character.toNat - 0x41 + 10) (by omega)).2
          rw [if_neg (by omega)] at spelled
          have code : 0x37 + (character.toNat - 0x41 + 10) = character.toNat := by omega
          rwa [code, same] at spelled
        next => cases h
  · rintro ⟨small, rfl | rfl⟩
    · exact (hexValue?_digitChar value small).1
    · exact (hexValue?_digitChar value small).2

theorem hexUnit?_eq_some {first second third fourth : Char} {unit : Nat} :
    hexUnit? first second third fourth = some unit ↔ HexUnit first second third fourth unit := by
  constructor
  · intro h
    obtain ⟨a, isFirst, h⟩ := Option.bind_eq_some_iff.mp h
    obtain ⟨b, isSecond, h⟩ := Option.bind_eq_some_iff.mp h
    obtain ⟨c, isThird, h⟩ := Option.bind_eq_some_iff.mp h
    obtain ⟨d, isFourth, h⟩ := Option.bind_eq_some_iff.mp h
    cases h
    rw [hexValue?_eq_some] at isFirst isSecond isThird isFourth
    have bounds := And.intro isFirst.1 (And.intro isSecond.1 (And.intro isThird.1 isFourth.1))
    have high : (((a * 16 + b) * 16 + c) * 16 + d) / 4096 = a := by omega
    have next : (((a * 16 + b) * 16 + c) * 16 + d) / 256 % 16 = b := by omega
    have third : (((a * 16 + b) * 16 + c) * 16 + d) / 16 % 16 = c := by omega
    have low : (((a * 16 + b) * 16 + c) * 16 + d) % 16 = d := by omega
    constructor
    · rwa [high]
    · rwa [next]
    · rwa [third]
    · rwa [low]
  · rintro ⟨isFirst, isSecond, isThird, isFourth⟩
    have whole : ((unit / 4096 * 16 + unit / 256 % 16) * 16 + unit / 16 % 16) * 16 + unit % 16 =
        unit := by omega
    simp only [hexUnit?, hexValue?_eq_some.mpr isFirst, hexValue?_eq_some.mpr isSecond,
      hexValue?_eq_some.mpr isThird, hexValue?_eq_some.mpr isFourth, Option.bind_eq_bind,
      Option.bind_some, whole]
    rfl

theorem HexUnit.lt {first second third fourth : Char} {unit : Nat}
    (spelled : HexUnit first second third fourth unit) : unit < 65536 := by
  have bound := spelled.first.1
  omega

def letterEscapes : List (Char × Char) :=
  [('\x22', '\x22'), ('\\', '\\'), ('/', '/'), ('b', '\x08'), ('f', '\x0c'), ('n', '\n'), ('r', '\r'),
    ('t', '\t')]

/-- The spellings of a character. A pair of surrogates counts the codes past 16 bits. -/
inductive SpellsChar : List Char → Char → Prop where
  | plain {character : Char} (printable : 0x20 ≤ character.toNat) (notQuote : character ≠ '\x22')
      (notEscape : character ≠ '\\') : SpellsChar [character] character
  | letter {letter character : Char} (known : (letter, character) ∈ letterEscapes) :
      SpellsChar ['\\', letter] character
  | unit {a b c d character : Char} (code : HexUnit a b c d character.toNat) :
      SpellsChar ['\\', 'u', a, b, c, d] character
  | pair {a b c d e f g h character : Char} (high : 0x10000 ≤ character.toNat)
      (leading : HexUnit a b c d (0xD800 + (character.toNat - 0x10000) / 0x400))
      (trailing : HexUnit e f g h (0xDC00 + (character.toNat - 0x10000) % 0x400)) :
      SpellsChar ['\\', 'u', a, b, c, d, '\\', 'u', e, f, g, h] character

inductive SpellsText : List Char → List Char → Prop where
  | nil : SpellsText [] []
  | cons {spelling rest text : List Char} {character : Char} (first : SpellsChar spelling character)
      (others : SpellsText rest text) : SpellsText (spelling ++ rest) (character :: text)

theorem toNat_ofNat {code : Nat} (valid : code.isValidChar) : (Char.ofNat code).toNat = code := by
  rw [Char.ofNat, dif_pos valid]
  rfl

theorem toNat_valid (character : Char) : character.toNat < 0xD800 ∨
    0xDFFF < character.toNat ∧ character.toNat < 0x110000 := character.valid

theorem joinSurrogates_eq {character : Char} (high : 0x10000 ≤ character.toNat) :
    joinSurrogates (0xD800 + (character.toNat - 0x10000) / 0x400)
      (0xDC00 + (character.toNat - 0x10000) % 0x400) = character := by
  have code : (0xD800 + (character.toNat - 0x10000) / 0x400 - 0xD800) * 0x400 +
      (0xDC00 + (character.toNat - 0x10000) % 0x400 - 0xDC00) + 0x10000 = character.toNat := by omega
  rw [joinSurrogates, code, Char.ofNat_toNat]

theorem escaped?_eq_some {letter character : Char} :
    escaped? letter = some character ↔ (letter, character) ∈ letterEscapes := by
  constructor
  · intro h
    unfold escaped? at h
    split at h <;> cases h <;> decide
  · intro known
    simp only [letterEscapes, List.mem_cons, Prod.mk.injEq, List.not_mem_nil, or_false] at known
    rcases known with ⟨rfl, rfl⟩ | ⟨rfl, rfl⟩ | ⟨rfl, rfl⟩ | ⟨rfl, rfl⟩ | ⟨rfl, rfl⟩ | ⟨rfl, rfl⟩ |
      ⟨rfl, rfl⟩ | ⟨rfl, rfl⟩ <;> rfl

theorem push_eq_ok {character : Char} {read : Except Stop (List Char × List Char)}
    {text rest : List Char} : push character read = .ok (text, rest) ↔
      ∃ others, read = .ok (others, rest) ∧ text = character :: others := by
  constructor
  · intro h
    unfold push at h
    split at h <;> cases h
    exact ⟨_, rfl, rfl⟩
  · rintro ⟨others, rfl, rfl⟩
    rfl

theorem not_surrogate (character : Char) : isTrailingSurrogate character.toNat = false ∧
    isLeadingSurrogate character.toNat = false := by
  have valid := toNat_valid character
  simp only [isTrailingSurrogate, isLeadingSurrogate, Bool.and_eq_false_iff, decide_eq_false_iff_not]
  omega

theorem readText_spelling {spelling : List Char} {character : Char}
    (spelled : SpellsChar spelling character) (rest : List Char) :
    readText (spelling ++ rest) = push character (readText rest) := by
  cases spelled with
  | plain printable notQuote notEscape =>
    change readText (character :: rest) = _
    rw [readText.eq_7 character rest notQuote (fun _ _ _ _ _ same _ => notEscape same)
      (fun _ same _ => notEscape same) (fun _ _ same _ => notEscape same)
      (fun same _ => notEscape same), if_neg (Nat.not_lt.mpr printable)]
  | @letter letter _ known =>
    -- The letter of a unit escapes no character by itself.
    have notUnit : letter ≠ 'u' := by
      rintro rfl
      have meant := escaped?_eq_some.mpr known
      cases meant
    change readText ('\\' :: letter :: rest) = _
    rw [readText.eq_5 letter rest (fun _ _ _ _ _ same _ => notUnit same) notUnit,
      escaped?_eq_some.mpr known]
  | @unit a b c d _ code =>
    obtain ⟨notTrailing, notLeading⟩ := not_surrogate character
    change readText ('\\' :: 'u' :: a :: b :: c :: d :: rest) = _
    rw [readText.eq_3, hexUnit?_eq_some.mpr code]
    simp only [notTrailing, notLeading, Bool.false_eq_true, if_false, Char.ofNat_toNat]
  | @pair a b c d e f g h _ high leading trailing =>
    have valid := toNat_valid character
    have isLeading : isLeadingSurrogate (0xD800 + (character.toNat - 0x10000) / 0x400) = true := by
      simp only [isLeadingSurrogate, Bool.and_eq_true, decide_eq_true_eq]
      omega
    have notTrailing : isTrailingSurrogate (0xD800 + (character.toNat - 0x10000) / 0x400) = false := by
      simp only [isTrailingSurrogate, Bool.and_eq_false_iff, decide_eq_false_iff_not]
      omega
    have isTrailing : isTrailingSurrogate (0xDC00 + (character.toNat - 0x10000) % 0x400) = true := by
      simp only [isTrailingSurrogate, Bool.and_eq_true, decide_eq_true_eq]
      omega
    change readText ('\\' :: 'u' :: a :: b :: c :: d :: '\\' :: 'u' :: e :: f :: g :: h :: rest) = _
    rw [readText.eq_3, hexUnit?_eq_some.mpr leading]
    simp only [isLeading, notTrailing, hexUnit?_eq_some.mpr trailing, isTrailing, Bool.false_eq_true,
      if_false, if_true, joinSurrogates_eq high]

theorem spellsChar_pair {a b c d e f g h : Char} {leading trailing : Nat}
    (first : HexUnit a b c d leading) (second : HexUnit e f g h trailing)
    (isLeading : isLeadingSurrogate leading = true) (isTrailing : isTrailingSurrogate trailing = true) :
    SpellsChar ['\\', 'u', a, b, c, d, '\\', 'u', e, f, g, h] (joinSurrogates leading trailing) := by
  simp only [isLeadingSurrogate, isTrailingSurrogate, Bool.and_eq_true, decide_eq_true_eq] at isLeading isTrailing
  have valid : ((leading - 0xD800) * 0x400 + (trailing - 0xDC00) + 0x10000).isValidChar :=
    .inr (by omega)
  have code := toNat_ofNat valid
  apply SpellsChar.pair
  · rw [joinSurrogates, code]
    omega
  · have half : 0xD800 + ((joinSurrogates leading trailing).toNat - 0x10000) / 0x400 = leading := by
      rw [joinSurrogates, code]
      omega
    rwa [half]
  · have half : 0xDC00 + ((joinSurrogates leading trailing).toNat - 0x10000) % 0x400 = trailing := by
      rw [joinSurrogates, code]
      omega
    rwa [half]

/-- A unit that is no half of a pair is the code of a character. -/
theorem spellsChar_unit {a b c d : Char} {unit : Nat} (code : HexUnit a b c d unit)
    (notLeading : ¬isLeadingSurrogate unit = true) (notTrailing : ¬isTrailingSurrogate unit = true) :
    SpellsChar ['\\', 'u', a, b, c, d] (Char.ofNat unit) := by
  have small := code.lt
  simp only [isLeadingSurrogate, isTrailingSurrogate, Bool.and_eq_true, decide_eq_true_eq] at notLeading notTrailing
  have valid : unit.isValidChar := by
    by_cases low : unit < 0xD800
    · exact .inl low
    · exact .inr (by omega)
  apply SpellsChar.unit
  rwa [toNat_ofNat valid]

/-- Every spelling of a text is read as the text, up to the quote after it. -/
theorem readText_of_spells {spelling text : List Char} (spelled : SpellsText spelling text)
    (rest : List Char) : readText (spelling ++ '\x22' :: rest) = .ok (text, rest) := by
  induction spelled with
  | nil => exact readText.eq_2 rest
  | cons first _ ih => rw [List.append_assoc, readText_spelling first, ih, push]

/-- A source that is some spelling of the text, with the quote that ends it and the rest. -/
def SpelledIn (source text rest : List Char) : Prop :=
  ∃ spelling, SpellsText spelling text ∧ source = spelling ++ '\x22' :: rest

theorem SpelledIn.push {spelling source text rest : List Char} {character : Char}
    (first : SpellsChar spelling character)
    (read : push character (readText source) = .ok (text, rest))
    (others : ∀ {text : List Char}, readText source = .ok (text, rest) → SpelledIn source text rest) :
    SpelledIn (spelling ++ source) text rest := by
  obtain ⟨tail, done, rfl⟩ := push_eq_ok.mp read
  obtain ⟨spelled, texts, rfl⟩ := others done
  exact ⟨_, .cons first texts, (List.append_assoc ..).symm⟩

/-- Nothing but spellings is read. -/
theorem spelledIn_of_readText {source text rest : List Char}
    (h : readText source = .ok (text, rest)) : SpelledIn source text rest := by
  fun_induction readText source generalizing text with
  | case2 =>
    cases h
    exact ⟨[], .nil, rfl⟩
  | case6 _ _ _ _ leading first _ isLeading _ _ _ _ after trailing second isTrailing ih =>
    exact SpelledIn.push (spellsChar_pair (hexUnit?_eq_some.mp first) (hexUnit?_eq_some.mp second)
      isLeading isTrailing) h ih
  | case9 _ _ _ _ after unit code notTrailing notLeading ih =>
    exact SpelledIn.push (spellsChar_unit (hexUnit?_eq_some.mp code) notLeading notTrailing) h ih
  | case11 letter after _ _ meant known ih =>
    exact SpelledIn.push (.letter (escaped?_eq_some.mp known)) h ih
  | case15 character after notQuote _ _ escape lone shown ih =>
    have notEscape : character ≠ '\\' := by
      intro same
      cases after with
      | nil => exact lone same rfl
      | cons next after => exact escape next after same rfl
    exact SpelledIn.push (.plain (Nat.not_lt.mp shown) notQuote notEscape) h ih
  | _ => cases h

theorem hexUnit_control {code : Nat} (control : code < 0x20) :
    HexUnit '0' '0' (Nat.digitChar (code / 16)) (Nat.digitChar (code % 16)) code := by
  constructor
  · have zero : code / 4096 = 0 := by omega
    rw [zero]
    exact ⟨by decide, .inl rfl⟩
  · have zero : code / 256 % 16 = 0 := by omega
    rw [zero]
    exact ⟨by decide, .inl rfl⟩
  · have low : code / 16 % 16 = code / 16 := by omega
    rw [low]
    exact ⟨by omega, .inl rfl⟩
  · exact ⟨by omega, .inl rfl⟩

theorem spellsChar_escapeChar (character : Char) : SpellsChar (escapeChar character) character := by
  unfold escapeChar
  split
  case h_8 notQuote notEscape _ _ _ _ _ =>
    split
    next control => exact .unit (hexUnit_control control)
    next shown => exact .plain (Nat.not_lt.mp shown) notQuote notEscape
  all_goals exact .letter (by decide)

theorem spellsText_escaped (text : List Char) : SpellsText (text.flatMap escapeChar) text := by
  induction text with
  | nil => exact .nil
  | cons character text ih =>
    rw [List.flatMap_cons]
    exact .cons (spellsChar_escapeChar character) ih

end TypeBridge.Json
