import TypeBridge.LogicalType.Parse
import TypeBridge.Proofs.Column.WellFormed
import TypeBridge.Proofs.Text.Numeral
import TypeBridge.Proofs.Text.Spelling

/-!
The text of a type, written and read. A type is written as a name, its numbers in brackets and, for some,
the words that stand for a zone. The reader finds these parts again and checks the numbers, so it gives the
type back just where the type keeps its bounds; and it gives no type that does not.
-/
namespace TypeBridge.LogicalType

open TypeBridge.Text

def baseName : LogicalType → String
  | boolean => "boolean"
  | tinyInt => "tinyint"
  | smallInt => "smallint"
  | integer => "integer"
  | bigInt => "bigint"
  | real => "real"
  | double => "double"
  | decimal _ _ => "decimal"
  | char _ => "char"
  | varchar _ => "varchar"
  | varbinary => "varbinary"
  | json => "json"
  | date => "date"
  | time _ | timeWithTimeZone _ => "time"
  | timestamp _ | timestampWithTimeZone _ => "timestamp"
  | uuid => "uuid"

def numbers : LogicalType → List Nat
  | decimal precision scale => [precision, scale]
  | char number | varchar (some number) | time number | timestamp number | timestampWithTimeZone number
  | timeWithTimeZone number => [number]
  | _ => []

def isZoned : LogicalType → Bool
  | timestampWithTimeZone _ | timeWithTimeZone _ => true
  | _ => false

def bracketed (numbers : List Nat) : List Char :=
  if numbers.isEmpty then [] else '(' :: [','].intercalate (numbers.map numeral) ++ [')']

def headText (type : LogicalType) : List Char := type.baseName.toList ++ bracketed type.numbers

theorem toList_withArguments (name : String) {numbers : List Nat} (present : numbers ≠ []) :
    (withArguments name numbers).toList = name.toList ++ bracketed numbers := by
  have numerals : (numbers.map numberText).map String.toList = numbers.map numeral := by
    rw [List.map_map]
    exact List.map_congr_left fun number _ => toList_numberText number
  rw [bracketed, if_neg (by simpa using present), withArguments]
  simp [numerals]

theorem toList_text (type : LogicalType) : type.text.toList =
    type.headText ++ if type.isZoned then ' ' :: zoneSuffix else [] := by
  have bare (name : String) : name.toList = name.toList ++ bracketed [] ++ [] := by simp [bracketed]
  cases type with
  | decimal | char | time | timestamp =>
    rw [text, toList_withArguments _ (List.cons_ne_nil _ _)]
    exact (List.append_nil _).symm
  | varchar length =>
    cases length with
    | none => exact bare _
    | some length =>
      rw [text, toList_withArguments _ (List.cons_ne_nil _ _)]
      exact (List.append_nil _).symm
  | timestampWithTimeZone | timeWithTimeZone =>
    rw [text, String.toList_append, toList_withArguments _ (List.cons_ne_nil _ _)]
    rfl
  | _ => exact bare _

theorem mem_intercalate {separator character : Char} {pieces : List (List Char)}
    (member : character ∈ [separator].intercalate pieces) :
    character = separator ∨ ∃ piece ∈ pieces, character ∈ piece := by
  induction pieces with
  | nil => cases member
  | cons first rest ih =>
    cases rest with
    | nil =>
      rw [List.intercalate_singleton] at member
      exact .inr ⟨first, List.mem_cons_self, member⟩
    | cons second rest =>
      rw [List.intercalate_cons_cons, List.append_assoc] at member
      rcases List.mem_append.mp member with early | late
      · exact .inr ⟨first, List.mem_cons_self, early⟩
      rcases List.mem_cons.mp late with rfl | later
      · exact .inl rfl
      rcases ih later with same | ⟨piece, among, inside⟩
      · exact .inl same
      · exact .inr ⟨piece, List.mem_cons_of_mem _ among, inside⟩

/-- Characters of a type's text before the zone: folding leaves them as they are, and none is blank. -/
def IsFolded (character : Char) : Prop :=
  isAscii character = true ∧ character.toLower = character ∧ isBlank character = false

instance (character : Char) : Decidable (IsFolded character) := inferInstanceAs (Decidable (_ ∧ _))

theorem isFolded_of_isDigit {character : Char} (digit : isDigit character = true) : IsFolded character := by
  refine ⟨?_, ?_, isBlank_of_isDigit digit⟩
  · simp only [isDigit, Bool.and_eq_true, decide_eq_true_eq] at digit
    simp only [isAscii, decide_eq_true_eq]
    omega
  · exact of_toLower (fun small letter => isDigit letter = true → small = letter) (fun _ _ => rfl)
      (by decide) character digit

theorem isFolded_baseName (type : LogicalType) :
    ∀ character ∈ type.baseName.toList, IsFolded character ∧ character ≠ '(' := by
  have all : (type.baseName.toList.all fun character => IsFolded character ∧ character ≠ '(') = true := by
    cases type <;> dsimp only [baseName] <;> decide
  exact fun character member => of_decide_eq_true (List.all_eq_true.mp all character member)

theorem isFolded_bracketed {numbers : List Nat} {character : Char}
    (member : character ∈ bracketed numbers) : IsFolded character := by
  unfold bracketed at member
  split at member
  · cases member
  rcases List.mem_append.mp member with inside | closing
  · rcases List.mem_cons.mp inside with rfl | inside
    · decide
    rcases mem_intercalate inside with rfl | ⟨_, among, digit⟩
    · decide
    · obtain ⟨number, -, rfl⟩ := List.mem_map.mp among
      exact isFolded_of_isDigit (isDigit_of_mem_numeral digit)
  · rw [List.mem_singleton.mp closing]
    decide

theorem isFolded_headText {type : LogicalType} {character : Char} (member : character ∈ type.headText) :
    IsFolded character := by
  rcases List.mem_append.mp member with name | brackets
  · exact (isFolded_baseName type character name).1
  · exact isFolded_bracketed brackets

theorem headText_ne_nil (type : LogicalType) : type.headText ≠ [] := by
  have named : type.baseName.toList ≠ [] := by cases type <;> dsimp only [baseName] <;> decide
  exact List.append_ne_nil_of_left_ne_nil named _

theorem folded_text (type : LogicalType) : lowercase (trim type.text.toList) = type.text.toList := by
  have zoned : ((' ' :: zoneSuffix).all fun character =>
      isAscii character = true ∧ character.toLower = character) = true := by decide
  have trimmed : trim type.text.toList = type.text.toList := by
    rw [toList_text]
    apply trim_self
    · intro first begins
      obtain ⟨front, rest, head⟩ := List.exists_cons_of_ne_nil type.headText_ne_nil
      rw [head] at begins
      cases begins
      exact (isFolded_headText (head ▸ List.mem_cons_self)).2.2
    · intro last ends
      rw [List.getLast?_append] at ends
      split at ends
      · cases ends
        rfl
      · exact (isFolded_headText (List.mem_of_mem_getLast? ends)).2.2
  rw [trimmed]
  apply lowercase_self
  intro character member
  rw [toList_text] at member
  rcases List.mem_append.mp member with head | zone
  · exact ⟨(isFolded_headText head).1, (isFolded_headText head).2.1⟩
  · split at zone
    · exact of_decide_eq_true (List.all_eq_true.mp zoned character zone)
    · cases zone

theorem dropZone_zoned {head : List Char} (solid : ∀ character ∈ head, isBlank character = false) :
    dropZone (head ++ ' ' :: zoneSuffix) = (head, true) := by
  have ends : zoneSuffix.isSuffixOf (head ++ ' ' :: zoneSuffix) = true :=
    List.isSuffixOf_iff_suffix.mpr ⟨head ++ [' '], by simp⟩
  have before : (head ++ ' ' :: zoneSuffix).take ((head ++ ' ' :: zoneSuffix).length - zoneSuffix.length) =
      head ++ [' '] := by
    rw [List.append_cons, List.length_append, Nat.add_sub_cancel, List.take_left]
  have kept : trimEnd (head ++ [' ']) = head := by
    rw [trimEnd, dropEndWhile_append_of_all (List.forall_mem_singleton.mpr rfl)]
    exact trimEnd_self fun last ends => solid last (List.mem_of_mem_getLast? ends)
  rw [dropZone, if_pos ends, before, kept]

theorem dropZone_plain {head : List Char} (solid : ∀ character ∈ head, isBlank character = false) :
    dropZone head = (head, false) := by
  have other : ¬zoneSuffix.isSuffixOf head = true := by
    intro ends
    have gap : ' ' ∈ head := (List.isSuffixOf_iff_suffix.mp ends).subset (by decide)
    cases solid ' ' gap
  rw [dropZone, if_neg other]

theorem dropZone_text (type : LogicalType) :
    dropZone type.text.toList = (type.headText, type.isZoned) := by
  have solid : ∀ character ∈ type.headText, isBlank character = false :=
    fun _ member => (isFolded_headText member).2.2
  rw [toList_text]
  cases type.isZoned with
  | true => exact dropZone_zoned solid
  | false =>
    simp only [Bool.false_eq_true, ↓reduceIte, List.append_nil]
    exact dropZone_plain solid

theorem splitAt_eq (separator : Char) (text : List Char) :
    splitAt separator text = text.splitOn separator := by
  induction text with
  | nil => rfl
  | cons first rest ih =>
    obtain ⟨piece, pieces, split⟩ := List.exists_cons_of_ne_nil (List.splitOn_ne_nil separator rest)
    have both : (first :: rest).splitOn separator =
        if (first == separator) = true then [] :: rest.splitOn separator
        else (rest.splitOn separator).modifyHead (first :: ·) :=
      List.splitOnP_cons_eq_if_modifyHead first rest
    rw [both, splitAt, ih, split]
    simp

theorem readNatural?_numeral (bound number : Nat) :
    readNatural? bound (trim (numeral number)) = if number < bound then some number else none := by
  have solid : ∀ digit ∈ numeral number, isBlank digit = false :=
    fun _ member => isBlank_of_isDigit (isDigit_of_mem_numeral member)
  rw [trim_of_solid solid]
  unfold readNatural?
  split
  next rest same => exact absurd same (head_numeral_ne (by decide) number rest)
  next =>
    dsimp only
    rw [readDigits?_numeral, Option.filter_some]
    simp

theorem readNumbers_numerals (numbers : List Nat) :
    ((numbers.map numeral).mapM fun piece => readNatural? (twoTo 32) (trim piece)) =
      if ∀ number ∈ numbers, number < twoTo 32 then some numbers else none := by
  induction numbers with
  | nil => rfl
  | cons number numbers ih =>
    rw [List.map_cons, List.mapM_cons, readNatural?_numeral, ih]
    simp only [List.forall_mem_cons]
    by_cases word : number < twoTo 32
    · by_cases words : ∀ number ∈ numbers, number < twoTo 32
      · rw [if_pos word, if_pos words, if_pos ⟨word, words⟩]
        rfl
      · rw [if_pos word, if_neg words, if_neg (mt And.right words)]
        rfl
    · rw [if_neg word, if_neg (mt And.left word)]
      rfl

theorem splitArguments?_bracketed {name : List Char} (numbers : List Nat)
    (solid : ∀ character ∈ name, isBlank character = false) (bare : '(' ∉ name) :
    splitArguments? (name ++ bracketed numbers) =
      if ∀ number ∈ numbers, number < twoTo 32 then some (name, numbers) else none := by
  rw [splitArguments?, List.dropWhile_append_of_pos (bne_of_notMem bare),
    List.takeWhile_append_of_pos (bne_of_notMem bare)]
  by_cases empty : numbers = []
  · subst empty
    simp [bracketed]
  · have brackets : bracketed numbers = '(' :: ([','].intercalate (numbers.map numeral) ++ [')']) :=
      if_neg (by simpa using empty)
    have whole : ∀ piece ∈ numbers.map numeral, ',' ∉ piece := by
      intro piece among
      obtain ⟨number, -, rfl⟩ := List.mem_map.mp among
      exact notMem_numeral (by decide) number
    rw [brackets, List.dropWhile_cons_of_neg (by decide), List.takeWhile_cons_of_neg (by decide),
      List.append_nil, trim_of_solid solid]
    simp only [List.getLast?_concat, ↓reduceIte, List.dropLast_concat, splitAt_eq]
    rw [List.splitOn_intercalate ',' whole (by simpa using empty), readNumbers_numerals]
    split <;> rfl

theorem ofParts_checked (text : String) (type : LogicalType) :
    ofParts text type.baseName type.numbers type.isZoned = type.checked := by
  cases type with
  | varchar length => cases length <;> rfl
  | _ => rfl

/-- What is written for a type is read as the type, once its numbers have passed the checks. -/
theorem parse_text (type : LogicalType) :
    parse type.text =
      if ∀ number ∈ type.numbers, number < twoTo 32 then type.checked else unknown type.text := by
  have name := isFolded_baseName type
  have parts := splitArguments?_bracketed type.numbers (fun character member => (name character member).1.2.2)
    (fun bracket => (name '(' bracket).2 rfl)
  rw [parse, folded_text, dropZone_text]
  dsimp only
  rw [headText, parts]
  by_cases words : ∀ number ∈ type.numbers, number < twoTo 32
  · simp only [if_pos words, String.ofList_toList]
    exact ofParts_checked type.text type
  · simp only [if_neg words]

variable {type other : LogicalType} {text base : String} {arguments : List Nat} {zoned : Bool}

theorem of_checkedDecimal {precision scale : Nat} (h : checkedDecimal precision scale = .ok type) :
    type = decimal precision scale ∧ (decimal precision scale).Valid := by
  unfold checkedDecimal at h
  split at h
  · cases h
  split at h
  · cases h
  cases h
  exact ⟨rfl, by omega, by omega, by omega⟩

theorem of_checkedChar {length : Nat} (h : checkedChar length = .ok type) :
    type = char length ∧ (char length).Valid := by
  unfold checkedChar at h
  split at h
  · cases h
  next known =>
    cases h
    exact ⟨rfl, Nat.le_of_not_lt known⟩

theorem of_checkedTemporal {name : String} {temporal : Nat → LogicalType} {precision : Nat}
    (h : checkedTemporal name temporal precision = .ok type) :
    type = temporal precision ∧ precision ≤ maxTemporalPrecision := by
  unfold checkedTemporal at h
  split at h
  · cases h
  next known =>
    cases h
    exact ⟨rfl, Nat.le_of_not_lt known⟩

theorem eq_of_checked (h : type.checked = .ok other) : other = type := by
  cases type with
  | decimal => exact (of_checkedDecimal h).1
  | char => exact (of_checkedChar h).1
  | time | timestamp | timestampWithTimeZone | timeWithTimeZone => exact (of_checkedTemporal h).1
  | _ =>
    cases h
    rfl

/-- Parts that make a type do so in any text, and the type keeps its bounds. -/
theorem valid_of_ofParts (words : ∀ number ∈ arguments, number < twoTo 32)
    (h : ofParts text base arguments zoned = .ok type) :
    type.Valid ∧ ∀ other, ofParts other base arguments zoned = .ok type := by
  unfold ofParts at h
  split at h
  case h_9 | h_10 | h_11 =>
    obtain ⟨rfl, valid⟩ := of_checkedDecimal h
    exact ⟨valid, fun _ => h⟩
  case h_12 | h_13 =>
    obtain ⟨rfl, valid⟩ := of_checkedChar h
    exact ⟨valid, fun _ => h⟩
  case h_15 =>
    cases h
    exact ⟨words _ List.mem_cons_self, fun _ => rfl⟩
  case h_19 | h_20 | h_21 | h_22 | h_23 | h_24 | h_25 | h_26 =>
    obtain ⟨rfl, valid⟩ := of_checkedTemporal h
    exact ⟨valid, fun _ => h⟩
  case h_28 => cases h
  all_goals
    cases h
    exact ⟨trivial, fun _ => rfl⟩

theorem lt_of_readNatural? {bound number : Nat} {digits : List Char}
    (h : readNatural? bound digits = some number) : number < bound := by
  unfold readNatural? at h
  exact of_decide_eq_true (Option.filter_eq_some_iff.mp h).2

theorem words_of_readNumbers {pieces : List (List Char)}
    (h : (pieces.mapM fun piece => readNatural? (twoTo 32) (trim piece)) = some arguments) :
    ∀ number ∈ arguments, number < twoTo 32 := by
  induction pieces generalizing arguments with
  | nil =>
    cases h
    exact List.forall_mem_nil _
  | cons piece pieces ih =>
    rw [List.mapM_cons] at h
    obtain ⟨number, read, h⟩ := Option.bind_eq_some_iff.mp h
    obtain ⟨numbers, rest, h⟩ := Option.bind_eq_some_iff.mp h
    cases h
    exact List.forall_mem_cons.mpr ⟨lt_of_readNatural? read, ih rest⟩

theorem words_of_splitArguments? {head name : List Char} (h : splitArguments? head = some (name, arguments)) :
    ∀ number ∈ arguments, number < twoTo 32 := by
  unfold splitArguments? at h
  split at h
  · cases h
    exact List.forall_mem_nil _
  split at h
  · obtain ⟨numbers, read, same⟩ := Option.map_eq_some_iff.mp h
    cases same
    exact words_of_readNumbers read
  · cases h

/-- A type that is read keeps its bounds, and is read from every text with the same folded form. -/
theorem valid_of_parse (h : parse text = .ok type) :
    type.Valid ∧ ∀ other : String, lowercase (trim other.toList) = lowercase (trim text.toList) →
      parse other = .ok type := by
  unfold parse at h
  dsimp only at h
  split at h
  next name arguments split =>
    obtain ⟨valid, elsewhere⟩ := valid_of_ofParts (words_of_splitArguments? split) h
    refine ⟨valid, fun other folded => ?_⟩
    rw [parse, folded]
    dsimp only
    rw [split]
    exact elsewhere other
  next => cases h

theorem words_of_valid (valid : type.Valid) : ∀ number ∈ type.numbers, number < twoTo 32 := by
  have digits : maxTemporalPrecision < twoTo 32 := by decide
  have chars : maxCharLength < twoTo 32 := by decide
  have widest : maxDecimalPrecision < twoTo 32 := by decide
  cases type with
  | decimal precision scale =>
    obtain ⟨-, known, fits⟩ := valid
    exact List.forall_mem_cons.mpr ⟨by omega, List.forall_mem_singleton.mpr (by omega)⟩
  | char length => exact List.forall_mem_singleton.mpr (Nat.lt_of_le_of_lt valid chars)
  | varchar length =>
    cases length with
    | none => exact List.forall_mem_nil _
    | some length => exact List.forall_mem_singleton.mpr valid
  | time | timestamp | timestampWithTimeZone | timeWithTimeZone =>
    exact List.forall_mem_singleton.mpr (Nat.lt_of_le_of_lt valid digits)
  | _ => exact List.forall_mem_nil _

theorem parse_text_of_valid (valid : type.Valid) : parse type.text = .ok type := by
  rw [parse_text, if_pos (words_of_valid valid), checked_of_valid valid]

theorem eq_of_parse_text (h : parse type.text = .ok other) : other = type := by
  rw [parse_text] at h
  split at h
  · exact eq_of_checked h
  · cases h

/-- The text of a type is read as the type, unless its numbers exceed their bounds. What is read from any text
is a type within its bounds, and is read as well from its own text and from every other spelling of the
first. -/
theorem text_reads_as_type :
    (∀ type : LogicalType, (type.Valid → parse type.text = .ok type) ∧
      (¬type.Valid → ∃ error, parse type.text = .error error)) ∧
    ∀ text type, parse text = .ok type → type.Valid ∧ parse type.text = .ok type ∧
      ∀ other : String, Respells text.toList other.toList → parse other = .ok type := by
  refine ⟨fun type => ⟨parse_text_of_valid, fun outside => ?_⟩, fun text type read => ?_⟩
  · cases read : parse type.text with
    | error error => exact ⟨error, rfl⟩
    | ok other =>
      obtain rfl := eq_of_parse_text read
      exact absurd (valid_of_parse read).1 outside
  · obtain ⟨valid, elsewhere⟩ := valid_of_parse read
    exact ⟨valid, parse_text_of_valid valid,
      fun other respells => elsewhere other (folded_of_respells respells)⟩

/-- A zoned timestamp with a sign before its digits, in capitals and between blanks; the widest decimal, and
one that is wider. -/
theorem text_reads_as_type_capitals :
    (decimal 38 38).Valid ∧ parse (decimal 38 38).text = .ok (decimal 38 38) ∧
    ¬(decimal 39 0).Valid ∧ (∃ error, parse (decimal 39 0).text = .error error) ∧
    parse "timestamp (+6)with time zone" = .ok (timestampWithTimeZone 6) ∧
    (timestampWithTimeZone 6).Valid ∧
    parse (timestampWithTimeZone 6).text = .ok (timestampWithTimeZone 6) ∧
    Respells "timestamp (+6)with time zone".toList "\t TimeStamp (+6)WITH TIME zone\n".toList ∧
    parse "\t TimeStamp (+6)WITH TIME zone\n" = .ok (timestampWithTimeZone 6) := by
  have widest : (decimal 38 38).Valid := ⟨by decide, by decide, by decide⟩
  have outside : ¬(decimal 39 0).Valid := fun valid => absurd valid.2.1 (by decide)
  have read : parse "timestamp (+6)with time zone" = .ok (timestampWithTimeZone 6) := rfl
  have respells : Respells "timestamp (+6)with time zone".toList
      "\t TimeStamp (+6)WITH TIME zone\n".toList :=
    @Respells.mk _ ['\t', ' '] "TimeStamp (+6)WITH TIME zone".toList ['\n'] (by decide) (by decide)
      (by decide)
  obtain ⟨written, texts⟩ := text_reads_as_type
  obtain ⟨valid, own, spellings⟩ := texts _ _ read
  exact ⟨widest, (written (decimal 38 38)).1 widest, outside, (written (decimal 39 0)).2 outside, read, valid,
    own, respells, spellings "\t TimeStamp (+6)WITH TIME zone\n" respells⟩

end TypeBridge.LogicalType
