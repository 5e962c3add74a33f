import TypeBridge.Proofs.Decimal.Precision
import TypeBridge.Proofs.Text.Numeral

/-!
Numbers as they are written. A text has at most one sign, one point and one exponent, and separators once a
digit has been seen. It stands for a rational number, whether there is a decimal for that number or not.
-/
namespace TypeBridge.Decimal

open TypeBridge.Text

/-- A number as text, by its parts: its sign, the digits before and after the point with separators among
them, and the exponent, which is zero where there is none. -/
structure Written where
  negative : Bool
  whole : List Char
  fraction : List Char
  exponent : Int
  deriving DecidableEq

def takeSign (text : List Char) : Bool × List Char :=
  match text with
  | '-' :: rest => (true, rest)
  | '+' :: rest => (false, rest)
  | text => (false, text)

def isDigital (character : Char) : Bool := isDigit character || character == '_'

def decimalNumber (negative : Bool) (coefficient scale : Nat) : ℚ :=
  (if negative then -1 else 1) * (coefficient / tenTo scale)

namespace Written

def exponent? (text : List Char) : Option Int :=
  match text with
  | '-' :: digits => (readDigits? digits).map fun value : Nat => -(value : Int)
  | '+' :: digits => (readDigits? digits).map Int.ofNat
  | digits => (readDigits? digits).map Int.ofNat

/-- The parts of a text. Apart from one point there are digits, the first of them before any separator,
and after an exponent mark a number with an optional sign. -/
def of? (text : List Char) : Option Written :=
  let (negative, body) := takeSign text
  let mantissa := body.takeWhile (!isExponentMark ·)
  let whole := mantissa.takeWhile (· != '.')
  let fraction := (mantissa.dropWhile (· != '.')).drop 1
  if (whole ++ fraction).all isDigital && (whole ++ fraction).head?.any isDigit then
    match body.dropWhile (!isExponentMark ·) with
    | [] => some ⟨negative, whole, fraction, 0⟩
    | _ :: exponent => (exponent? exponent).map (⟨negative, whole, fraction, ·⟩)
  else none

def coefficient (written : Written) : Nat :=
  digitsValue ((written.whole ++ written.fraction).filter isDigit)

def places (written : Written) : Nat := (written.fraction.filter isDigit).length

def mantissa (written : Written) : ℚ :=
  decimalNumber written.negative written.coefficient written.places

def number (written : Written) : ℚ := written.mantissa * 10 ^ written.exponent

/-- Whether a decimal has a place for each character before the exponent: the digits are not more than a
coefficient has room for, and the 28th after the point, if there are so many, is the last character. -/
def Whole (written : Written) : Prop :=
  written.coefficient ≤ maxCoefficient ∧ (written.fraction.dropLast.filter isDigit).length < maxScale

end Written

def numberOf? (text : List Char) : Option ℚ := (Written.of? text).map Written.number

/-- Whether there is a decimal for the number, with up to 28 digits after the point. -/
def Representable (number : ℚ) : Prop :=
  ∃ value : Decimal, value.scale ≤ maxScale ∧ value.toRat = number

section Numbers

variable {negative : Bool} {coefficient scale : Nat}

theorem toRat_eq_decimalNumber (value : Decimal) :
    value.toRat = decimalNumber value.negative value.coefficient value.scale := by
  rw [toRat, signedCoefficient, decimalNumber]
  cases value.negative <;> simp [neg_div]

theorem toRat_of_make? {value : Decimal} (h : make? negative coefficient scale = some value) :
    value.toRat = decimalNumber negative coefficient scale := by
  obtain ⟨digits, places, sign⟩ := make?_eq_some h
  rw [toRat_eq_decimalNumber, digits, places, sign, decimalNumber, decimalNumber]
  -- Only a zero loses its sign.
  by_cases zero : coefficient = 0 <;> simp [zero]

theorem abs_decimalNumber (negative : Bool) (coefficient scale : Nat) :
    |decimalNumber negative coefficient scale| = coefficient / tenTo scale := by
  cases negative <;> simp [decimalNumber, abs_div]

theorem sign_ne_zero (negative : Bool) : (if negative then -1 else 1 : ℚ) ≠ 0 := by
  cases negative <;> simp

theorem decimalNumber_eq_iff {other places : Nat} :
    decimalNumber negative coefficient scale = decimalNumber negative other places ↔
      coefficient * tenTo places = other * tenTo scale := by
  rw [decimalNumber, decimalNumber, mul_right_inj' (sign_ne_zero negative),
    div_eq_div_iff (cast_tenTo_ne_zero _) (cast_tenTo_ne_zero _)]
  exact_mod_cast Iff.rfl

theorem decimalNumber_mul (factor : Nat) :
    decimalNumber negative (coefficient * factor) scale =
      decimalNumber negative coefficient scale * factor := by
  rw [decimalNumber, decimalNumber, Nat.cast_mul, mul_assoc, div_mul_eq_mul_div]

theorem decimalNumber_scale_add (more : Nat) :
    decimalNumber negative coefficient (scale + more) =
      decimalNumber negative coefficient scale / tenTo more := by
  rw [decimalNumber, decimalNumber, tenTo_add, Nat.cast_mul, mul_div_assoc, div_div]

theorem coefficient_of_representable (h : Representable (decimalNumber negative coefficient scale)) :
    ∃ digits places, digits ≤ maxCoefficient ∧ places ≤ maxScale ∧
      digits * tenTo scale = coefficient * tenTo places := by
  obtain ⟨value, few, same⟩ := h
  have size := congrArg (|·|) same
  rw [abs_toRat, abs_decimalNumber, div_eq_div_iff (cast_tenTo_ne_zero _) (cast_tenTo_ne_zero _)] at size
  exact ⟨value.coefficient, value.scale, Nat.le_sub_one_of_lt value.coefficient_lt, few, by exact_mod_cast size⟩

end Numbers

theorem takeSign_unsigned {text : List Char} (notMinus : text.head? ≠ some '-')
    (notPlus : text.head? ≠ some '+') : takeSign text = (false, text) := by
  unfold takeSign
  split
  next => exact absurd rfl notMinus
  next => exact absurd rfl notPlus
  next => rfl

/-- A sign is no exponent mark, so it stays where a text is cut at its exponent mark. -/
theorem takeSign_takeWhile (text : List Char) :
    takeSign (text.takeWhile (!isExponentMark ·)) =
        ((takeSign text).1, (takeSign text).2.takeWhile (!isExponentMark ·)) ∧
      text.dropWhile (!isExponentMark ·) = (takeSign text).2.dropWhile (!isExponentMark ·) := by
  by_cases minus : text.head? = some '-'
  · obtain ⟨rest, rfl⟩ := List.head?_eq_some_iff.mp minus
    exact ⟨rfl, rfl⟩
  by_cases plus : text.head? = some '+'
  · obtain ⟨rest, rfl⟩ := List.head?_eq_some_iff.mp plus
    exact ⟨rfl, rfl⟩
  · rw [takeSign_unsigned minus plus, takeSign_unsigned]
    · exact ⟨rfl, rfl⟩
    · rw [List.head?_takeWhile]
      exact fun head => minus (Option.eq_some_of_filter_eq_some head)
    · rw [List.head?_takeWhile]
      exact fun head => plus (Option.eq_some_of_filter_eq_some head)

theorem parts_of_point (text : List Char) :
    text = text.takeWhile (· != '.') ∧ (text.dropWhile (· != '.')).drop 1 = [] ∨
      text = text.takeWhile (· != '.') ++ '.' :: (text.dropWhile (· != '.')).drop 1 := by
  induction text with
  | nil => exact .inl ⟨rfl, rfl⟩
  | cons first rest ih =>
    by_cases point : first = '.'
    · subst point
      exact .inr (by simp)
    · have passed : (first != '.') = true := by simpa using point
      rw [List.takeWhile_cons, List.dropWhile_cons, if_pos passed, if_pos passed]
      rcases ih with ⟨same, none⟩ | same
      · exact .inl ⟨congrArg (first :: ·) same, none⟩
      · exact .inr (congrArg (first :: ·) same)

structure Spells (written : Written) (text mantissa tail : List Char) : Prop where
  sign : takeSign text = (written.negative, mantissa ++ tail)
  unmarked : ∀ character ∈ mantissa, isExponentMark character = false
  parts : mantissa = written.whole ∧ written.fraction = [] ∨
    mantissa = written.whole ++ '.' :: written.fraction
  digital : (written.whole ++ written.fraction).all isDigital = true
  first : (written.whole ++ written.fraction).head?.any isDigit = true
  ending : tail = [] ∧ written.exponent = 0 ∨ ∃ mark digits, tail = mark :: digits ∧
    isExponentMark mark = true ∧ Written.exponent? digits = some written.exponent

variable {written : Written} {text mantissa tail : List Char}

theorem spells_of? (h : Written.of? text = some written) :
    ∃ mantissa tail, Spells written text mantissa tail := by
  unfold Written.of? at h
  dsimp only at h
  generalize body : (takeSign text).2 = rest at h
  have sign : takeSign text = ((takeSign text).1, rest) := Prod.ext rfl body
  have split : rest.takeWhile (!isExponentMark ·) ++ rest.dropWhile (!isExponentMark ·) = rest :=
    List.takeWhile_append_dropWhile
  have unmarked : ∀ character ∈ rest.takeWhile (!isExponentMark ·), isExponentMark character = false := by
    intro character member
    simpa using List.all_eq_true.mp List.all_takeWhile character member
  have marked := List.head?_dropWhile_not (!isExponentMark ·) rest
  generalize rest.takeWhile (!isExponentMark ·) = mantissa at h split unmarked
  split at h
  next digits =>
    obtain ⟨digital, first⟩ := Bool.and_eq_true_iff.mp digits
    split at h
    next ending =>
      cases h
      rw [ending] at split
      exact ⟨mantissa, [], split ▸ sign, unmarked, parts_of_point mantissa, digital, first, .inl ⟨rfl, rfl⟩⟩
    next mark exponent ending =>
      obtain ⟨value, read, rfl⟩ := Option.map_eq_some_iff.mp h
      rw [ending] at split marked
      exact ⟨mantissa, mark :: exponent, split ▸ sign, unmarked, parts_of_point mantissa, digital, first,
        .inr ⟨mark, exponent, rfl, by simpa using marked, read⟩⟩
  next => cases h

namespace Spells

theorem started (spells : Spells written text mantissa tail) :
    (written.whole ++ written.fraction).any isDigit = true := by
  have first := spells.first
  cases digits : written.whole ++ written.fraction with
  | nil =>
    rw [digits] at first
    cases first
  | cons digit rest =>
    rw [digits] at first
    exact List.any_eq_true.mpr ⟨digit, List.mem_cons_self .., first⟩

theorem mantissa_ne_nil (spells : Spells written text mantissa tail) : mantissa ≠ [] := by
  rintro rfl
  have started := spells.started
  rcases spells.parts with ⟨whole, fraction⟩ | point
  · rw [← whole, fraction] at started
    cases started
  · exact List.append_ne_nil_of_right_ne_nil _ (List.cons_ne_nil _ _) point.symm

theorem cut (spells : Spells written text mantissa tail) :
    takeSign (text.takeWhile (!isExponentMark ·)) = (written.negative, mantissa ++ []) ∧
      text.dropWhile (!isExponentMark ·) = tail := by
  have unmarked : ∀ character ∈ mantissa, (!isExponentMark character) = true :=
    fun character member => by simpa using spells.unmarked character member
  have marked : tail.takeWhile (!isExponentMark ·) = [] ∧ tail.dropWhile (!isExponentMark ·) = tail := by
    rcases spells.ending with ⟨rfl, -⟩ | ⟨mark, digits, rfl, mark, -⟩
    · exact ⟨rfl, rfl⟩
    · simp [mark]
  obtain ⟨sign, rest⟩ := takeSign_takeWhile text
  rw [spells.sign, List.takeWhile_append_of_pos unmarked, marked.1] at sign
  rw [spells.sign, List.dropWhile_append_of_pos unmarked, marked.2] at rest
  exact ⟨sign, rest⟩

end Spells

end TypeBridge.Decimal
