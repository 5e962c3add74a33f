import TypeBridge.Json.Reader
import TypeBridge.Proofs.Outcome
import TypeBridge.Proofs.Text.Numeral

/-!
Whole numbers in JSON. The numeral of a number of 64 bits is read as the number, as long as nothing
follows that continues it; and what is read as a whole number is its numeral, since with a fraction, an
exponent or more digits a number is read as a double.
-/
namespace TypeBridge.Json

open TypeBridge.Text

/-- The whole numbers that are kept exact: the signed words of 64 bits and the unsigned. -/
def Exact (value : Int) : Prop := -(twoTo 63 : Int) ≤ value ∧ value < twoTo 64

def continues (character : Char) : Bool :=
  isDigit character || character == '.' || character == 'e' || character == 'E'

def EndsNumber (rest : List Char) : Prop := ∀ next ∈ rest.head?, continues next = false

theorem EndsNumber.head {next : Char} {rest : List Char} (ends : EndsNumber (next :: rest)) :
    isDigit next = false ∧ next ≠ '.' ∧ next ≠ 'e' ∧ next ≠ 'E' := by
  have stops := ends next rfl
  simp only [continues, Bool.or_eq_false_iff, beq_eq_false_iff_ne] at stops
  exact ⟨stops.1.1.1, stops.1.1.2, stops.1.2, stops.2⟩

theorem le_digitsFrom (value : Nat) (digits : List Char) : value ≤ digitsFrom value digits := by
  rw [digitsFrom_eq]
  exact Nat.le_trans (Nat.le_mul_of_pos_right value (tenTo_pos _)) (Nat.le_add_right ..)

theorem gather_of_lt {value : Nat} {digits : List Char} (fits : digitsFrom value digits < twoTo 64) :
    gather value digits = (digitsFrom value digits, []) := by
  induction digits generalizing value with
  | nil => rfl
  | cons digit digits ih =>
    have fewer : 10 * value + digitValue digit < twoTo 64 :=
      Nat.lt_of_le_of_lt (le_digitsFrom _ digits) fits
    rw [gather, if_pos fewer, ih fits]
    rfl

theorem gathered {value significand : Nat} {digits : List Char} (small : value < twoTo 64)
    (h : gather value digits = (significand, [])) :
    significand = digitsFrom value digits ∧ significand < twoTo 64 := by
  induction digits generalizing value with
  | nil =>
    cases h
    exact ⟨rfl, small⟩
  | cons digit digits ih =>
    rw [gather] at h
    split at h
    next fits => exact ih fits h
    next => cases h

/-- A reader that gives doubles only. -/
def GivesDouble (read : Except Stop (Json × List Char)) : Prop :=
  ∀ value rest, read = .ok (value, rest) → ∃ number, value = .double number

theorem givesDouble_error (stop : Stop) : GivesDouble (.error stop) := by
  intro _ _ h
  cases h

variable {negative down : Bool} {significand : Nat} {start exponent : Int} {text rest : List Char}

theorem givesDouble_readDouble : GivesDouble (readDouble negative significand exponent rest) := by
  unfold readDouble
  split
  next number _ =>
    intro _ _ h
    cases h
    exact ⟨number, rfl⟩
  next => exact givesDouble_error _

theorem givesDouble_readExponentDigits :
    GivesDouble (readExponentDigits negative significand start down text) := by
  unfold readExponentDigits
  split
  next => exact givesDouble_error _
  next =>
    split
    next => exact givesDouble_error _
    next =>
      split
      next => exact givesDouble_readDouble
      next =>
        split
        next =>
          split
          next => exact givesDouble_error _
          next =>
            intro _ _ h
            cases h
            exact ⟨_, rfl⟩
        next => exact givesDouble_readDouble

theorem givesDouble_readExponent : GivesDouble (readExponent negative significand start text) := by
  unfold readExponent
  split <;> exact givesDouble_readExponentDigits

theorem givesDouble_readFraction : GivesDouble (readFraction negative significand start text) := by
  unfold readFraction
  dsimp only
  split
  next => exact givesDouble_error _
  next =>
    split
    next => exact givesDouble_readExponent
    next => exact givesDouble_readExponent
    next => exact givesDouble_readDouble

def Signed (negative : Bool) (significand : Nat) (value : Int) : Prop :=
  if negative then significand ≠ 0 ∧ significand ≤ twoTo 63 ∧ value = -(significand : Int)
  else value = significand

theorem readNumberTail_of_ends {value : Int} (signed : Signed negative significand value) (ends : EndsNumber rest) :
    readNumberTail negative significand 0 rest = .ok (.integer value, rest) := by
  unfold readNumberTail
  split
  next => exact absurd rfl ends.head.2.1
  next => exact absurd rfl ends.head.2.2.1
  next => exact absurd rfl ends.head.2.2.2
  next =>
    cases negative with
    | false =>
      simp only [Signed, Bool.false_eq_true, if_false] at signed
      simp [signed]
    | true =>
      simp only [Signed, if_true] at signed
      obtain ⟨present, small, rfl⟩ := signed
      have large : ¬twoTo 63 < significand := by omega
      simp [present, large]

/-- Unless a double is read, no digits are left over, and there is no fraction and no exponent. -/
theorem integer_of_readNumberTail {spare : Nat} {value : Json}
    (h : readNumberTail negative significand spare text = .ok (value, rest))
    (whole : ∀ number, value ≠ .double number) :
    spare = 0 ∧ rest = text ∧ ∃ number, value = .integer number ∧ Signed negative significand number := by
  have doubled {read : Except Stop (Json × List Char)} (gives : GivesDouble read)
      (done : read = .ok (value, rest)) : False := by
    obtain ⟨number, same⟩ := gives _ _ done
    exact whole number same
  unfold readNumberTail at h
  split at h
  next => exact (doubled givesDouble_readFraction h).elim
  next => exact (doubled givesDouble_readExponent h).elim
  next => exact (doubled givesDouble_readExponent h).elim
  next =>
    split at h
    next => exact (doubled givesDouble_readDouble h).elim
    next none =>
      split at h
      next positive =>
        cases h
        simp only [Bool.not_eq_true'] at positive
        exact ⟨Decidable.not_not.mp none, rfl, _, rfl, by simp [Signed, positive]⟩
      next signed =>
        split at h
        next =>
          cases h
          exact absurd rfl (whole _)
        next small =>
          cases h
          simp only [Bool.not_eq_true', Bool.not_eq_false] at signed
          simp only [Bool.or_eq_true, decide_eq_true_eq, not_or] at small
          refine ⟨Decidable.not_not.mp none, rfl, _, rfl, ?_⟩
          simp only [Signed, signed, if_true]
          exact ⟨by omega, by omega, trivial⟩

theorem takeWhile_numeral (number : Nat) (ends : EndsNumber rest) :
    (numeral number ++ rest).takeWhile isDigit = numeral number ∧
      (numeral number ++ rest).dropWhile isDigit = rest := by
  have digits : ∀ digit ∈ numeral number, isDigit digit = true :=
    fun _ member => isDigit_of_mem_numeral member
  rw [List.takeWhile_append_of_pos digits, List.dropWhile_append_of_pos digits]
  cases rest with
  | nil => simp
  | cons next rest => simp [ends.head.1]

theorem readNumber_numeral {number : Nat} {value : Int} (signed : Signed negative number value)
    (small : number < twoTo 64) (ends : EndsNumber rest) :
    readNumber negative (numeral number ++ rest) = .ok (.integer value, rest) := by
  obtain ⟨first, more, written⟩ := List.exists_cons_of_ne_nil (numeral_ne_nil number)
  by_cases zero : first = '0'
  · subst zero
    obtain ⟨rfl, rfl⟩ := numeral_eq_zero written
    rw [written]
    cases rest with
    | nil => exact readNumberTail_of_ends signed ends
    | cons next after =>
      rw [← readNumberTail_of_ends signed ends]
      simp only [List.cons_append, List.nil_append, readNumber, ends.head.1, Bool.false_eq_true, if_false]
  · have digital : isDigit first = true := by
      apply @isDigit_of_mem_numeral number
      rw [written]
      exact List.mem_cons_self
    obtain ⟨taken, dropped⟩ := takeWhile_numeral number ends
    have gathers : gather 0 (numeral number) = (number, []) := by
      have whole := digitsValue_numeral number
      rw [digitsValue] at whole
      rw [gather_of_lt (by rw [whole]; exact small), whole]
    rw [written, List.cons_append] at taken dropped ⊢
    rw [readNumber.eq_4 negative first (more ++ rest) zero, if_pos digital, taken, dropped, ← written, gathers]
    exact readNumberTail_of_ends signed ends

theorem numeral_of_readNumber {value : Json} (h : readNumber negative text = .ok (value, rest))
    (whole : ∀ number, value ≠ .double number) :
    ∃ magnitude number, value = .integer number ∧ magnitude < twoTo 64 ∧
      Signed negative magnitude number ∧ text = numeral magnitude ++ rest := by
  unfold readNumber at h
  split at h
  next => cases h
  next after =>
    have zero : readNumberTail negative 0 0 after = .ok (value, rest) := by
      split at h
      next => exact h
      next =>
        split at h
        next => cases h
        next => exact h
    obtain ⟨-, rfl, number, same, signed⟩ := integer_of_readNumberTail zero whole
    exact ⟨0, number, same, twoTo_pos 64, signed, rfl⟩
  next first after notZero =>
    split at h
    next digital =>
      obtain ⟨gathersAll, rfl, number, isNumber, signed⟩ := integer_of_readNumberTail h whole
      have none := List.eq_nil_of_length_eq_zero gathersAll
      obtain ⟨same, small⟩ := gathered (twoTo_pos 64) (Prod.ext rfl none)
      refine ⟨_, number, isNumber, small, signed, ?_⟩
      have begins : (first :: after).takeWhile isDigit = first :: after.takeWhile isDigit :=
        List.takeWhile_cons_of_pos digital
      -- The first digit is not zero, so that the digits are a numeral.
      have digits : numeral (digitsValue ((first :: after).takeWhile isDigit)) =
          (first :: after).takeWhile isDigit := by
        apply numeral_digitsValue
        · intro digit member
          exact List.all_eq_true.mp List.all_takeWhile digit member
        · rw [begins]
          exact List.cons_ne_nil _ _
        · right
          rw [begins]
          exact fun head => notZero (Option.some.inj head)
      rw [same]
      exact ((congrArg (· ++ _) digits).trans (List.takeWhile_append_dropWhile ..)).symm
    next => cases h

theorem readScalar_of_isDigit {first : Char} (digital : isDigit first = true) :
    readScalar (first :: rest) = readNumber false (first :: rest) := by
  have other : ∀ {mark : Char}, isDigit mark = false → first ≠ mark := by
    rintro mark none rfl
    rw [digital] at none
    cases none
  rw [readScalar.eq_7 first rest (other (by decide)) (other (by decide)) (other (by decide))
    (other (by decide)) (other (by decide)), if_pos digital]

theorem readScalar_signedNumeral {value : Int} (exact : Exact value) (ends : EndsNumber rest) :
    readScalar (signedNumeral value ++ rest) = .ok (.integer value, rest) := by
  obtain ⟨low, high⟩ := exact
  cases value with
  | ofNat number =>
    have small : number < twoTo 64 := Int.ofNat_lt.mp high
    have read := @readNumber_numeral false rest number number rfl small ends
    obtain ⟨first, more, written⟩ := List.exists_cons_of_ne_nil (numeral_ne_nil number)
    have digital : isDigit first = true := by
      apply @isDigit_of_mem_numeral number
      rw [written]
      exact List.mem_cons_self
    change readScalar (numeral number ++ rest) = _
    rw [written, List.cons_append] at read ⊢
    rw [readScalar_of_isDigit digital]
    exact read
  | negSucc number =>
    have bound : twoTo 63 < twoTo 64 := by decide
    have signed : Signed true (number + 1) (.negSucc number) := ⟨by omega, by omega, rfl⟩
    exact readNumber_numeral signed (by omega) ends

theorem signedNumeral_of_signed {number : Nat} {value : Int} (signed : Signed negative number value) :
    signedNumeral value = if negative then '-' :: numeral number else numeral number := by
  cases negative with
  | false =>
    simp only [Signed, Bool.false_eq_true, if_false] at signed
    rw [signed]
    rfl
  | true =>
    simp only [Signed, if_true] at signed
    obtain ⟨present, -, rfl⟩ := signed
    obtain ⟨before, rfl⟩ := Nat.exists_eq_succ_of_ne_zero present
    rfl

theorem exact_of_signed {number : Nat} {value : Int} (signed : Signed negative number value)
    (small : number < twoTo 64) : Exact value := by
  have bound : twoTo 64 = 2 * twoTo 63 := rfl
  unfold Exact
  cases negative with
  | false =>
    simp only [Signed, Bool.false_eq_true, if_false] at signed
    omega
  | true =>
    simp only [Signed, if_true] at signed
    omega

/-- Unless a double is read, a number with its sign is the numeral of a whole number. -/
theorem signedNumeral_of_readNumber {value : Json} (h : readNumber negative text = .ok (value, rest))
    (whole : ∀ number, value ≠ .double number) :
    ∃ number, value = .integer number ∧ Exact number ∧
      (if negative then '-' :: text else text) = signedNumeral number ++ rest := by
  obtain ⟨magnitude, number, same, small, signed, rfl⟩ := numeral_of_readNumber h whole
  refine ⟨number, same, exact_of_signed signed small, ?_⟩
  rw [signedNumeral_of_signed signed]
  cases negative <;> rfl

end TypeBridge.Json
