import Mathlib.Data.ENat.Basic
import TypeBridge.Column.WriteMapping

/-!
The room of text columns. Lengths of text count characters, and a character may take several bytes. Columns
of fixed length are always wide enough, and so are those of Oracle. The family of text types of MySQL is
chosen as if each character were a byte, so a length near the upper end of a type overfills it.
-/
namespace TypeBridge

open WriteMapping

def longTextBytes : Nat := 4294967295

/-- The bytes of characters whose number a column may only have where they keep to a limit. -/
def limitedChars (limit length : Nat) : Nat :=
  if length * bytesPerChar ≤ limit then length * bytesPerChar else 0

/-- The bytes that every text in a column can have. Columns of other types have no room for text. -/
def DataType.byteCapacity : DataType → ℕ∞
  | char length => (length * bytesPerChar : Nat)
  | charOfChars length => limitedChars oracleCharBytes length
  | varcharOfChars length => limitedChars oracleVarcharBytes length
  | tinyText => tinyTextBytes
  | text => textBytes
  | mediumText => mediumTextBytes
  | longText => longTextBytes
  | clob => ⊤
  | _ => 0

namespace WriteMapping

variable {mode : Mode} {length : Nat}

def HasRoom (type : DataType) (length : Nat) : Prop :=
  ((length * bytesPerChar : Nat) : ℕ∞) ≤ type.byteCapacity

theorem hasRoom_natCast {type : DataType} {capacity : Nat} (bytes : type.byteCapacity = capacity) :
    HasRoom type length ↔ length * bytesPerChar ≤ capacity := by
  rw [HasRoom, bytes, Nat.cast_le]

theorem hasRoom_clob : HasRoom .clob length := le_top

theorem limitedChars_of_le {limit : Nat} (short : length ≤ limit / bytesPerChar) :
    limitedChars limit length = length * bytesPerChar := by
  apply if_pos
  calc length * bytesPerChar
    _ ≤ limit / bytesPerChar * bytesPerChar := Nat.mul_le_mul_right _ short
    _ ≤ limit := Nat.div_mul_le_self ..

theorem hasRoom_charType (mode : Mode) (length : Nat) : HasRoom (charType mode length) length := by
  cases mode <;> unfold charType <;> dsimp only <;> split
  next => exact (hasRoom_natCast rfl).mpr (Nat.le_refl _)
  next => exact hasRoom_clob
  next short =>
    rw [hasRoom_natCast rfl, limitedChars_of_le (Nat.le_of_lt short)]
  next => exact hasRoom_clob

theorem hasRoom_varcharType_oracle : HasRoom (varcharType .oracle (some length)) length := by
  unfold varcharType
  dsimp only
  split
  next short =>
    rw [hasRoom_natCast rfl, limitedChars_of_le short]
  next => exact hasRoom_clob

/-- Whether a length fits into one of the smaller text types when its characters count as bytes, and no
longer does when each takes the most bytes. -/
def Overfills (length : Nat) : Prop :=
  ∃ bytes ∈ [tinyTextBytes, textBytes, mediumTextBytes],
    length ≤ bytes ∧ bytes < length * bytesPerChar

theorem overfills_iff : Overfills length ↔
    (length ≤ 255 ∧ 255 < length * 4) ∨ (length ≤ 65535 ∧ 65535 < length * 4) ∨
      (length ≤ 16777215 ∧ 16777215 < length * 4) := by
  simp only [Overfills, List.mem_cons, List.not_mem_nil, or_false, exists_eq_or_imp, exists_eq_left]
  rfl

/-- The types are so far apart that a length can overfill only the one that is chosen for it. -/
theorem hasRoom_varcharType_mysql (bounded : length ≤ LogicalType.maxVarcharLength / bytesPerChar) :
    HasRoom (varcharType .mysql (some length)) length ↔ ¬Overfills length := by
  have most : LogicalType.maxVarcharLength / bytesPerChar = 536870911 := rfl
  have tiny : tinyTextBytes = 255 := rfl
  have middle : textBytes = 65535 := rfl
  have medium : mediumTextBytes = 16777215 := rfl
  have long : longTextBytes = 4294967295 := rfl
  rw [overfills_iff]
  unfold varcharType
  dsimp only
  split
  next =>
    rw [@hasRoom_natCast _ .longText longTextBytes rfl, bytesPerChar]
    omega
  next =>
    split
    next =>
      rw [@hasRoom_natCast _ .tinyText tinyTextBytes rfl, bytesPerChar]
      omega
    next =>
      split
      next =>
        rw [@hasRoom_natCast _ .text textBytes rfl, bytesPerChar]
        omega
      next =>
        rw [@hasRoom_natCast _ .mediumText mediumTextBytes rfl, bytesPerChar]
        omega

/-- A column that is created for text of fixed length has room for it. One for text of bounded length has it
too, but in MySQL where the length overfills its type. -/
theorem created_text_hasRoom_iff (mode : Mode) :
    (∀ length ≤ LogicalType.maxCharLength, ∃ mapping,
      ofType mode (.char length) = .ok mapping ∧ HasRoom mapping.dataType length) ∧
    ∀ length ≤ LogicalType.maxVarcharLength / bytesPerChar, ∃ mapping,
      ofType mode (.varchar (some length)) = .ok mapping ∧
        (HasRoom mapping.dataType length ↔ ¬(mode = .mysql ∧ Overfills length)) := by
  constructor
  · intro length _
    exact ⟨_, rfl, hasRoom_charType mode length⟩
  · intro length bounded
    refine ⟨_, rfl, ?_⟩
    cases mode with
    | mysql => simpa using hasRoom_varcharType_mysql bounded
    | oracle => simpa using hasRoom_varcharType_oracle

/-- The longest text of a column of characters, and the longest that keeps to a type with all its bytes. -/
theorem created_text_hasRoom_iff_quarter :
    ∃ fixed varying, ofType .mysql (.char 255) = .ok fixed ∧ fixed.dataType = .char 255 ∧
      HasRoom fixed.dataType 255 ∧ ofType .mysql (.varchar (some 16383)) = .ok varying ∧
      varying.dataType = .text ∧ HasRoom varying.dataType 16383 := by
  obtain ⟨chars, varchars⟩ := created_text_hasRoom_iff .mysql
  obtain ⟨fixed, fixedMade, fixedRoom⟩ := chars 255 (by decide)
  obtain ⟨varying, varyingMade, varyingRoom⟩ := varchars 16383 (by decide)
  have keeps : ¬Overfills 16383 := by
    rw [overfills_iff]
    decide
  cases fixedMade
  cases varyingMade
  exact ⟨_, _, rfl, rfl, fixedRoom, rfl, rfl, varyingRoom.mpr fun overfills => keeps overfills.2⟩

/-- Sixty-four characters of four bytes have 256, one more than the type that is chosen for them. -/
theorem tinyText_overfilled : ∃ mapping, ofType .mysql (.varchar (some 64)) = .ok mapping ∧
    mapping.dataType = .tinyText ∧ ¬HasRoom mapping.dataType 64 := by
  refine ⟨_, rfl, rfl, ?_⟩
  change ¬HasRoom .tinyText 64
  rw [@hasRoom_natCast 64 .tinyText tinyTextBytes rfl]
  decide

end WriteMapping

end TypeBridge
