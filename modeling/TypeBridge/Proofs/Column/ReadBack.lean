import TypeBridge.Proofs.Column.Created
import TypeBridge.Proofs.Column.Decoding
import TypeBridge.Proofs.Column.Encoding
import TypeBridge.Proofs.Decimal.Fit

/-!
Values that were written are read back. A new column is found with a type that holds the values of the
first, and the type found says how they are read; so whatever was bound decodes, to the same value in the
form of the type found. Decimals come back with the scale of their column.
-/
namespace TypeBridge

namespace LogicalType

open Driver (describe? describe?_sql)
open ColumnMapping (resolve Reads reads_of_family family_of_resolve)
open WriteMapping (ofType)

def IsPlain : LogicalType → Prop
  | json | date | time _ | timestamp _ | timestampWithTimeZone _ | timeWithTimeZone _ | uuid => False
  | _ => True

def IsWhole (word : Int64) (read : LogicalValue) : Prop :=
  read = .long word ∨ read = .decimal (.ofInt64 word)

/-- A value of a type with what it comes back as. Truth values are one and zero; a decimal has zeros up
to the scale of the type, and a padded text may gain or lose blanks in the end. -/
inductive ReturnsAs : LogicalType → LogicalValue → LogicalValue → Prop where
  | boolean (truth : Bool) {read : LogicalValue} (whole : IsWhole (if truth then 1 else 0) read) :
      ReturnsAs .boolean (.boolean truth) read
  | whole {type : LogicalType} (integer : type.isInteger = true) {word : Int64} {read : LogicalValue}
      (whole : IsWhole word read) : ReturnsAs type (.long word) read
  | real (value : Binary32) : ReturnsAs .real (.real value) (.real value)
  | double (value : Binary64) : ReturnsAs .double (.double value) (.double value)
  | decimal {precision scale : Nat} {value padded : Decimal} (pads : value.PadsTo scale padded) :
      ReturnsAs (.decimal precision scale) (.decimal value) (.decimal padded)
  | char {length : Nat} {text read : String}
      (same : Text.dropEndWhile (· == ' ') read.toList = Text.dropEndWhile (· == ' ') text.toList) :
      ReturnsAs (.char length) (.text text) (.text read)
  | varchar {length : Option Nat} (text : String) : ReturnsAs (.varchar length) (.text text) (.text text)
  | varbinary (bytes : List UInt8) : ReturnsAs .varbinary (.bytes bytes) (.bytes bytes)

variable {mode : Mode} {type found : LogicalType} {written : WriteMapping} {read : ReadStrategy}
  {value : LogicalValue} {bound : BackendValue}

def wordBits : LogicalType → Nat
  | tinyInt => 8
  | smallInt => 16
  | integer => 32
  | _ => 64

def InRange (type : LogicalType) (word : Int64) : Prop :=
  -(twoTo (type.wordBits - 1) : Int) ≤ word.toInt ∧ word.toInt < twoTo (type.wordBits - 1)

theorem inRange_bigInt (word : Int64) : InRange .bigInt word :=
  ⟨Int64.le_toInt word, Int64.toInt_lt word⟩

theorem InRange.natAbs_lt {word : Int64} (range : type.InRange word) (whole : type.isInteger = true) :
    word.toInt.natAbs < tenTo type.integerDigits := by
  have digits : twoTo (type.wordBits - 1) < tenTo type.integerDigits := by
    obtain rfl | rfl | rfl | rfl := isInteger_eq_true whole <;> decide
  obtain ⟨low, high⟩ := range
  omega

theorem InRange.of_digits {word : Int64} (range : type.InRange word) (whole : type.isInteger = true)
    (integer : found.isInteger = true) (digits : type.integerDigits ≤ found.integerDigits) :
    found.InRange word := by
  have wider : twoTo (type.wordBits - 1) ≤ twoTo (found.wordBits - 1) := by
    obtain rfl | rfl | rfl | rfl := isInteger_eq_true whole <;>
      obtain rfl | rfl | rfl | rfl := isInteger_eq_true integer <;> revert digits <;> decide
  obtain ⟨low, high⟩ := range
  exact ⟨by omega, by omega⟩

theorem encodes_integer (whole : type.isInteger = true) (writes : ofType mode type = .ok written)
    (encodes : written.write.Encodes value bound) :
    ∃ word, value = .long word ∧ bound = .long word ∧ type.InRange word := by
  -- The three shorter words are checked, the longest takes every value.
  have ofChecked {bits : Nat} {name : String} {word checked : Int64} (width : bits = type.wordBits)
      (h : checkInteger bits name word = .ok checked) :
      ∃ same, LogicalValue.long word = .long same ∧ BackendValue.long checked = .long same ∧
        type.InRange same := by
    obtain ⟨rfl, range⟩ := checkInteger_eq_ok.mp h
    subst width
    exact ⟨_, rfl, rfl, range⟩
  cases type with
  | tinyInt =>
    cases writes
    cases encodes with
    | tinyInt checked => exact ofChecked rfl checked
  | smallInt =>
    cases writes
    cases encodes with
    | smallInt checked => exact ofChecked rfl checked
  | integer =>
    cases writes
    cases encodes with
    | integer checked => exact ofChecked rfl checked
  | bigInt =>
    cases writes
    cases encodes with
    | bigInt word => exact ⟨word, rfl, rfl, inRange_bigInt word⟩
  | _ => cases whole

theorem decode_whole {word : Int64} (integer : found.isInteger = true) (range : found.InRange word)
    (reads : Reads found read) : read.decode (.long word) = .ok (.long word) := by
  cases reads with
  | tinyInt | smallInt | integer => exact map_eq_ok.mpr ⟨word, checkInteger_eq_ok.mpr ⟨rfl, range⟩, rfl⟩
  | bigInt => rfl
  | _ => cases integer

theorem decode_wholeDecimal {word : Int64} {precision : Nat}
    (small : word.toInt.natAbs < tenTo precision) (reads : Reads (.decimal precision 0) read) :
    read.decode (.long word) = .ok (.decimal (.ofInt64 word)) := by
  cases reads with
  | decimal _ _ rounding =>
    have fits := fitDecimal_eq_ok.mpr (Decimal.fit_ofInt64 small rounding)
    exact map_eq_ok.mpr ⟨_, fits, rfl⟩

theorem decode_fitted {precision scale : Nat} {source fitted : Decimal}
    (fits : fitDecimal source precision scale none = .ok fitted)
    (reads : Reads (.decimal precision scale) read) :
    read.decode (.decimal fitted) = .ok (.decimal fitted) ∧ source.PadsTo scale fitted := by
  rw [fitDecimal_eq_ok] at fits
  cases reads with
  | decimal _ _ rounding =>
    have again := fitDecimal_eq_ok.mpr (Decimal.fit_fit fits rounding)
    exact ⟨map_eq_ok.mpr ⟨fitted, again, rfl⟩, Decimal.padsTo_of_fit fits⟩

theorem decode_bound (plain : type.IsPlain) (untrue : type ≠ .boolean)
    (writes : ofType mode type = .ok written) (held : type.holds mode found = true)
    (reads : Reads found read) (encodes : written.write.Encodes value bound) :
    ∃ again, read.decode bound = .ok again ∧ ReturnsAs type value again := by
  by_cases whole : type.isInteger = true
  · obtain ⟨word, rfl, rfl, range⟩ := encodes_integer whole writes encodes
    rcases holds_integer whole held with ⟨integer, digits⟩ | ⟨precision, rfl, digits⟩
    · have same := decode_whole integer (range.of_digits whole integer digits) reads
      exact ⟨_, same, .whole whole (.inl rfl)⟩
    · have small := Nat.lt_of_lt_of_le (range.natAbs_lt whole) (tenTo_le digits)
      exact ⟨_, decode_wholeDecimal small reads, .whole whole (.inr rfl)⟩
  cases type with
  | boolean => exact absurd rfl untrue
  | tinyInt | smallInt | integer | bigInt => exact absurd rfl whole
  | decimal precision scale =>
    cases writes
    cases encodes with
    | decimal fits =>
      rw [← holds_itself held trivial] at reads
      obtain ⟨decoded, pads⟩ := decode_fitted fits reads
      exact ⟨_, decoded, .decimal pads⟩
  | char length =>
    cases writes
    cases encodes with
    | char text =>
      rcases holds_char held with rfl | rfl
      · cases reads
        refine ⟨_, rfl, .char ?_⟩
        rw [String.toList_ofList]
        exact List.rdropWhile_idempotent _ _
      · cases reads
        exact ⟨_, rfl, .char rfl⟩
  | varchar length =>
    obtain ⟨longer, rfl⟩ := holds_varchar held
    cases writes
    cases encodes with
    | varchar text =>
      cases reads
      exact ⟨_, rfl, .varchar text⟩
  | real | double | varbinary =>
    obtain rfl := holds_itself held trivial
    cases writes
    cases encodes
    cases reads
    refine ⟨_, rfl, ?_⟩
    constructor
  | _ => exact plain.elim

theorem decode_truth (truth : Bool) (reads : Reads found read)
    (number : found = .tinyInt ∨ found = .decimal 1 0) :
    ∃ again, read.decode (.long (if truth then 1 else 0)) = .ok again ∧
      ReturnsAs .boolean (.boolean truth) again := by
  rcases number with rfl | rfl
  · have range : InRange .tinyInt (if truth then 1 else 0) := by
      cases truth <;> exact ⟨by decide, by decide⟩
    exact ⟨_, decode_whole rfl range reads, .boolean truth (.inl rfl)⟩
  · have small : (if truth then 1 else 0 : Int64).toInt.natAbs < tenTo 1 := by cases truth <;> decide
    exact ⟨_, decode_wholeDecimal small reads, .boolean truth (.inr rfl)⟩

/-- In both modes a plain type is written to a column whose description is found again, and every value
that was bound for the column is decoded to that value, as the type found has it. -/
theorem read_back (mode : Mode) (type : LogicalType) (valid : type.Valid) (plain : type.IsPlain) :
    ∃ written descriptor mapping, ofType mode type = .ok written ∧
      describe? mode written.dataType.sql = some descriptor ∧
      resolve mode .default [] descriptor = .ok (some mapping) ∧
      ∀ value bound, value.isNull = false → written.write.encode value = .ok bound →
        ∃ read, mapping.read.decode bound = .ok read ∧ ReturnsAs type value read := by
  by_cases truth : type = .boolean
  · subst truth
    obtain ⟨written, descriptor, mapping, writes, described, resolved, number⟩ := found_boolean mode
    refine ⟨written, descriptor, mapping, writes, described, resolved, ?_⟩
    intro value bound present encoded
    rw [WriteStrategy.encode_eq_ok present] at encoded
    cases writes
    cases encoded with
    | boolean truth => exact decode_truth truth (reads_of_family (family_of_resolve resolved)) number
  · have column : type.HasColumn := by cases type <;> trivial
    obtain ⟨written, descriptor, mapping, writes, described, resolved, held⟩ :=
      returns_of_hasColumn mode type valid column
    refine ⟨written, descriptor, mapping, writes, described, resolved, ?_⟩
    intro value bound present encoded
    rw [WriteStrategy.encode_eq_ok present] at encoded
    exact decode_bound plain truth writes held (reads_of_family (family_of_resolve resolved)) encoded

/-- The least word, which one mode keeps in a number of as many digits as it has. -/
theorem read_back_leastWord :
    ∃ written descriptor mapping, ofType .oracle .bigInt = .ok written ∧
      describe? .oracle written.dataType.sql = some descriptor ∧
      resolve .oracle .default [] descriptor = .ok (some mapping) ∧
      written.write.encode (.long Int64.minValue) = .ok (.long Int64.minValue) ∧
      ∃ read, mapping.read.decode (.long Int64.minValue) = .ok read ∧
        ReturnsAs .bigInt (.long Int64.minValue) read := by
  obtain ⟨written, descriptor, mapping, writes, described, resolved, back⟩ :=
    read_back .oracle .bigInt trivial trivial
  have encoded : written.write.encode (.long Int64.minValue) = .ok (.long Int64.minValue) := by
    cases writes
    rfl
  exact ⟨written, descriptor, mapping, writes, described, resolved, encoded, back _ _ rfl encoded⟩

/-- One and a half has one digit after the point. In a column with two it gains a zero, which is a digit
of the number that comes back. -/
theorem decimal_gains_zero :
    let value : Decimal := ⟨false, 15, 1, by decide, by decide⟩
    ∃ written descriptor mapping bound read, ofType .mysql (.decimal 5 2) = .ok written ∧
      describe? .mysql written.dataType.sql = some descriptor ∧
      resolve .mysql .default [] descriptor = .ok (some mapping) ∧
      written.write.encode (.decimal value) = .ok bound ∧
      mapping.read.decode bound = .ok (.decimal read) ∧
      read.coefficient ≠ value.coefficient ∧ read.scale ≠ value.scale := by
  intro value
  let padded : Decimal := ⟨false, 150, 2, by decide, by decide⟩
  have fits : fitDecimal value 5 2 none = .ok padded := by
    rw [fitDecimal_eq_ok]
    simp only [value, padded]
    rfl
  have encoded : (WriteStrategy.decimal 5 2).encode (.decimal value) = .ok (.decimal padded) :=
    map_eq_ok.mpr ⟨padded, fits, rfl⟩
  obtain ⟨decoded, -⟩ := decode_fitted fits (.decimal 5 2 none)
  exact ⟨⟨.decimal 5 2, .decimal 5 2⟩,
    ((Descriptor.ofType .decimal "DECIMAL").withSize 5).withDigits 2, .ofDecimal 5 2 none,
    .decimal padded, padded, rfl, describe?_sql .mysql (.decimal 5 2) (by decide), rfl, encoded, decoded,
    by decide, by decide⟩

end LogicalType

end TypeBridge
