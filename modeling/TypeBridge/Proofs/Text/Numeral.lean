import Mathlib.Data.List.DropRight
import Mathlib.Data.List.Induction
import TypeBridge.Text.Blank
import TypeBridge.Text.Numeral

/-!
Numerals read back. The digits that are written for a number are ASCII digits, at least one of them, and
their value is the number; so every reader of numbers takes them, within its bound. Zeros in front change
nothing, and of a fraction the zeros in the end may be left out.
-/
namespace TypeBridge.Text

@[simp]
theorem toString_text (text : String) : toString text = text := rfl

theorem isDigit_eq (character : Char) : isDigit character = character.isDigit := by
  simp only [isDigit, Char.isDigit, Char.toNat, ge_iff_le, UInt32.le_iff_toNat_le]
  rfl

theorem isDigit_of_mem_numeral {value : Nat} {character : Char} (h : character ∈ numeral value) :
    isDigit character = true := by
  rw [isDigit_eq]
  exact Nat.isDigit_of_mem_toDigits (by decide) (by decide) h

theorem numeral_ne_nil (value : Nat) : numeral value ≠ [] := Nat.toDigits_ne_nil

theorem digitsValue_numeral (value : Nat) : digitsValue (numeral value) = value :=
  Nat.ofDigitChars_ten_toDigits

theorem numeral_injective {number other : Nat} (same : numeral number = numeral other) :
    number = other := by
  rw [← digitsValue_numeral number, same, digitsValue_numeral]

theorem notMem_numeral {character : Char} (h : isDigit character = false) (value : Nat) :
    character ∉ numeral value := by
  intro member
  rw [isDigit_of_mem_numeral member] at h
  cases h

theorem bne_of_notMem {text : List Char} {mark : Char} (bare : mark ∉ text) :
    ∀ character ∈ text, (character != mark) = true := by
  intro character member
  exact bne_iff_ne.mpr fun same => bare (same ▸ member)

theorem head_numeral_ne {character : Char} (h : isDigit character = false) (value : Nat)
    (rest : List Char) : numeral value ≠ character :: rest := by
  intro same
  exact notMem_numeral h value (same ▸ List.mem_cons_self ..)

theorem readDigits?_numeral (value : Nat) : readDigits? (numeral value) = some value := by
  have digits : (numeral value).all isDigit = true :=
    List.all_eq_true.mpr fun _ member => isDigit_of_mem_numeral member
  have present : (numeral value).isEmpty = false := by simp [numeral_ne_nil]
  simp only [readDigits?, digits, present, Bool.not_true, Bool.or_self, Bool.false_eq_true, ↓reduceIte,
    digitsValue_numeral]

theorem readInteger?_numeral {bound value : Nat} (h : value < bound) :
    readInteger? bound (numeral value) = some (value : Int) := by
  unfold readInteger?
  split
  next rest same => exact absurd same (head_numeral_ne (by decide) value rest)
  next rest same => exact absurd same (head_numeral_ne (by decide) value rest)
  next =>
    rw [readDigits?_numeral]
    simp only [Option.map_some, Option.filter_some, Int.ofNat_eq_natCast]
    rw [if_pos]
    simp only [Bool.and_eq_true, decide_eq_true_eq]
    omega

theorem eq_of_readNatural? {bound value number : Nat} {digits : List Char}
    (digital : readDigits? digits = some number) (h : readNatural? bound digits = some value) :
    value = number := by
  unfold readNatural? at h
  dsimp only at h
  split at h
  next => cases digital
  next =>
    rw [digital] at h
    exact (Option.some_inj.mp (Option.eq_some_of_filter_eq_some h)).symm

theorem eq_of_readNatural?_plus {bound value number : Nat} {digits : List Char}
    (digital : readDigits? digits = some number) (h : readNatural? bound ('+' :: digits) = some value) :
    value = number := by
  rw [readNatural?, digital] at h
  exact (Option.some_inj.mp (Option.eq_some_of_filter_eq_some h)).symm

theorem toList_numberText (value : Nat) : (numberText value).toList = numeral value :=
  String.toList_ofList

theorem isBlank_of_isDigit {character : Char} (h : isDigit character = true) :
    isBlank character = false := by
  simp only [isDigit, Bool.and_eq_true, decide_eq_true_eq] at h
  simp only [isBlank, Bool.or_eq_false_iff, Bool.and_eq_false_iff, decide_eq_false_iff_not,
    beq_eq_false_iff_ne]
  omega

theorem isAlpha_of_isDigit {character : Char} (digit : isDigit character = true) :
    character.isAlpha = false := by
  simp only [isDigit, Char.toNat, Bool.and_eq_true, decide_eq_true_eq] at digit
  have upper : 'A'.val.toNat = 0x41 := rfl
  have lower : 'a'.val.toNat = 0x61 := rfl
  rw [Bool.eq_false_iff]
  intro letter
  rcases (Bool.or_eq_true _ _).mp letter with capital | small
  · have least : 'A'.val ≤ character.val := (of_decide_eq_true capital).1
    rw [UInt32.le_iff_toNat_le] at least
    omega
  · have least : 'a'.val ≤ character.val := of_decide_eq_true ((Bool.and_eq_true _ _).mp small).1
    rw [UInt32.le_iff_toNat_le] at least
    omega

/-- Digits that follow others move those before the place of the first. -/
theorem digitsFrom_eq (value : Nat) (digits : List Char) :
    digitsFrom value digits = value * tenTo digits.length + digitsValue digits := by
  have split : digitsFrom value digits = 10 ^ digits.length * value + digitsValue digits :=
    Nat.ofDigitChars_eq_ofDigitChars_zero
  rw [split, Nat.mul_comm]
  rfl

theorem digitsValue_append (left right : List Char) :
    digitsValue (left ++ right) = digitsValue left * tenTo right.length + digitsValue right := by
  have split : digitsValue (left ++ right) = digitsFrom (digitsValue left) right := List.foldl_append
  rw [split, digitsFrom_eq]

theorem digitsValue_singleton (digit : Char) : digitsValue [digit] = digitValue digit := by
  simp [digitsValue, digitsFrom]

theorem digitsValue_lt {digits : List Char} (all : ∀ digit ∈ digits, isDigit digit = true) :
    digitsValue digits < tenTo digits.length := by
  induction digits using List.reverseRecOn with
  | nil => exact Nat.one_pos
  | append_singleton digits last ih =>
    have rest := ih fun digit member => all digit (List.mem_append_left _ member)
    have digit := all last (by simp)
    have ten : tenTo [last].length = 10 := rfl
    simp only [isDigit, Bool.and_eq_true, decide_eq_true_eq] at digit
    rw [digitsValue_append, digitsValue_singleton, ten, List.length_append, List.length_singleton, tenTo_succ,
      digitValue]
    omega

theorem digitsValue_zeros (count : Nat) : digitsValue (List.replicate count '0') = 0 := by
  have zeros : digitsValue (List.replicate count '0') = 10 ^ count * 0 := Nat.ofDigitChars_replicate_zero
  rw [zeros, Nat.mul_zero]

theorem digitsValue_padZeros (width value : Nat) : digitsValue (padZeros width (numeral value)) = value := by
  rw [padZeros, digitsValue_append, digitsValue_zeros, digitsValue_numeral, Nat.zero_mul, Nat.zero_add]

theorem isDigit_of_mem_padZeros {width value : Nat} {character : Char}
    (h : character ∈ padZeros width (numeral value)) : isDigit character = true := by
  rcases List.mem_append.mp h with zero | digit
  · rw [List.eq_of_mem_replicate zero]
    rfl
  · exact isDigit_of_mem_numeral digit

theorem padZeros_ne_nil (width value : Nat) : padZeros width (numeral value) ≠ [] := by
  simp [padZeros, numeral_ne_nil]

theorem length_padZeros {width value : Nat} (positive : 0 < width) (small : value < tenTo width) :
    (padZeros width (numeral value)).length = width := by
  have short : (numeral value).length ≤ width := (Nat.length_toDigits_le_iff (by decide) positive).mpr small
  rw [padZeros, List.length_append, List.length_replicate]
  omega

theorem readDigits?_padZeros (width value : Nat) :
    readDigits? (padZeros width (numeral value)) = some value := by
  have digits : (padZeros width (numeral value)).all isDigit = true :=
    List.all_eq_true.mpr fun _ member => isDigit_of_mem_padZeros member
  have present : (padZeros width (numeral value)).isEmpty = false := by simp [padZeros_ne_nil]
  simp only [readDigits?, digits, present, Bool.not_true, Bool.or_self, Bool.false_eq_true, ↓reduceIte,
    digitsValue_padZeros]

theorem digitValue_lt {digit : Char} (digital : isDigit digit = true) : digitValue digit < 10 := by
  simp only [isDigit, Bool.and_eq_true, decide_eq_true_eq] at digital
  rw [digitValue]
  omega

theorem numeral_digitValue {digit : Char} (digital : isDigit digit = true) :
    numeral (digitValue digit) = [digit] := by
  have every : ∀ value < 10, numeral value = [Char.ofNat (0x30 + value)] := by decide
  have code : 0x30 + digitValue digit = digit.toNat := by
    simp only [isDigit, Bool.and_eq_true, decide_eq_true_eq] at digital
    rw [digitValue]
    omega
  rw [every (digitValue digit) (digitValue_lt digital), code, Char.ofNat_toNat]

theorem numeral_append_digit {number : Nat} (positive : 0 < number) {digit : Char}
    (digital : isDigit digit = true) :
    numeral (10 * number + digitValue digit) = numeral number ++ [digit] := by
  have last := numeral_digitValue digital
  rw [numeral] at last
  rw [numeral, ← Nat.toDigits_append_toDigits (by decide) positive (digitValue_lt digital), last, numeral]

theorem numeral_digitsValue {digits : List Char} (all : ∀ digit ∈ digits, isDigit digit = true)
    (present : digits ≠ []) (plain : digits = ['0'] ∨ digits.head? ≠ some '0') :
    numeral (digitsValue digits) = digits := by
  induction digits using List.reverseRecOn with
  | nil => exact absurd rfl present
  | append_singleton digits last ih =>
    have digital := all last (by simp)
    cases digits with
    | nil => rw [List.nil_append, digitsValue_singleton, numeral_digitValue digital]
    | cons first more =>
      have notZero : first ≠ '0' := by
        rintro rfl
        rcases plain with zero | head
        · exact absurd (List.cons.inj zero).2 (by simp)
        · exact head rfl
      have same := ih (fun digit member => all digit (List.mem_append_left _ member)) (by simp)
        (.inr fun head => notZero (Option.some.inj head))
      have positive : 0 < digitsValue (first :: more) := by
        apply Nat.pos_of_ne_zero
        intro zero
        rw [zero] at same
        exact notZero (List.cons.inj same).1.symm
      have ten : tenTo [last].length = 10 := rfl
      rw [digitsValue_append, digitsValue_singleton, ten, Nat.mul_comm, numeral_append_digit positive digital,
        same]

theorem numeral_eq_zero {number : Nat} {rest : List Char} (h : numeral number = '0' :: rest) :
    number = 0 ∧ rest = [] := by
  induction number using Nat.strongRecOn generalizing rest with
  | ind number ih =>
    by_cases small : number < 10
    · rw [numeral, Nat.toDigits_of_lt_base small] at h
      obtain ⟨first, others⟩ := List.cons.inj h
      exact ⟨Nat.digitChar_eq_zero.mp first, others.symm⟩
    · obtain ⟨first, rest, shorter⟩ := List.exists_cons_of_ne_nil (numeral_ne_nil (number / 10))
      have split := Nat.toDigits_of_base_le (by decide) (Nat.not_lt.mp small)
      rw [numeral] at h shorter
      rw [split, shorter] at h
      rw [(List.cons.inj h).1] at shorter
      have zero := (ih (number / 10) (by omega) shorter).1
      omega

theorem rdropWhile_append_replicate (dropped : Char) (text : List Char) :
    ∃ count, text = text.rdropWhile (· == dropped) ++ List.replicate count dropped := by
  induction text using List.reverseRecOn with
  | nil => exact ⟨0, rfl⟩
  | append_singleton text last ih =>
    rw [List.rdropWhile_concat]
    split
    next same =>
      obtain ⟨count, whole⟩ := ih
      refine ⟨count + 1, ?_⟩
      rw [List.replicate_succ', ← List.append_assoc, ← whole, beq_iff_eq.mp same]
    next => exact ⟨0, (List.append_nil _).symm⟩

def trimmed (width value : Nat) : List Char := dropEndWhile (· == '0') (padZeros width (numeral value))

variable {width value : Nat}

theorem trimmed_append_zeros (positive : 0 < width) (small : value < tenTo width) :
    (trimmed width value).length ≤ width ∧ padZeros width (numeral value) =
      trimmed width value ++ List.replicate (width - (trimmed width value).length) '0' := by
  obtain ⟨count, whole⟩ := rdropWhile_append_replicate '0' (padZeros width (numeral value))
  change padZeros width (numeral value) = trimmed width value ++ _ at whole
  have lengths := congrArg List.length whole
  rw [length_padZeros positive small, List.length_append, List.length_replicate] at lengths
  have zeros : width - (trimmed width value).length = count := by omega
  rw [zeros]
  exact ⟨by omega, whole⟩

theorem isDigit_of_mem_trimmed {character : Char} (h : character ∈ trimmed width value) :
    isDigit character = true := by
  obtain ⟨count, whole⟩ := rdropWhile_append_replicate '0' (padZeros width (numeral value))
  apply isDigit_of_mem_padZeros
  rw [whole]
  exact List.mem_append_left _ h

theorem getLast?_trimmed (width value : Nat) : (trimmed width value).getLast? ≠ some '0' := by
  intro last
  obtain ⟨present, final⟩ := List.mem_getLast?_eq_getLast last
  exact List.rdropWhile_last_not (· == '0') _ present (beq_iff_eq.mpr final.symm)

theorem digitsValue_trimmed (positive : 0 < width) (small : value < tenTo width) :
    digitsValue (trimmed width value) * tenTo (width - (trimmed width value).length) = value := by
  have whole := congrArg digitsValue (trimmed_append_zeros positive small).2
  rw [digitsValue_padZeros, digitsValue_append, digitsValue_zeros, List.length_replicate] at whole
  exact whole.symm

theorem not_ten_dvd_digitsValue {digits : List Char} {last : Char} (ends : digits.getLast? = some last)
    (digit : isDigit last = true) (notZero : last ≠ '0') : ¬10 ∣ digitsValue digits := by
  obtain ⟨front, rfl⟩ := List.getLast?_eq_some_iff.mp ends
  have ten : tenTo [last].length = 10 := rfl
  simp only [isDigit, Bool.and_eq_true, decide_eq_true_eq] at digit
  have code : last.toNat ≠ 0x30 := fun same => notZero (Char.toNat_inj.mp same)
  rw [digitsValue_append, digitsValue_singleton, ten, digitValue]
  omega

theorem length_trimmed_le {digits : Nat} (positive : 0 < width) (small : value < tenTo width)
    (onGrid : tenTo (width - digits) ∣ value) : (trimmed width value).length ≤ digits := by
  apply Nat.not_lt.mp
  intro longer
  obtain ⟨within, -⟩ := trimmed_append_zeros positive small
  have present : trimmed width value ≠ [] := by
    intro empty
    rw [empty] at longer
    exact Nat.not_lt_zero _ longer
  -- The last digit is not zero, but the digits would be a multiple of ten.
  let last := (trimmed width value).getLast present
  have ends : (trimmed width value).getLast? = some last := List.getLast?_eq_some_getLast present
  have digit : isDigit last = true := isDigit_of_mem_trimmed (List.getLast_mem present)
  have notZero : last ≠ '0' := fun zero => getLast?_trimmed width value (zero ▸ ends)
  apply not_ten_dvd_digitsValue ends digit notZero
  have whole := digitsValue_trimmed positive small
  generalize trimmed width value = kept at within longer whole
  have more : width - digits = (kept.length - digits - 1 + 1) + (width - kept.length) := by omega
  rw [← whole, more, tenTo_add, tenTo_succ] at onGrid
  exact Nat.dvd_trans (Nat.dvd_mul_left 10 _) (Nat.dvd_of_mul_dvd_mul_right (tenTo_pos _) onGrid)

end TypeBridge.Text
