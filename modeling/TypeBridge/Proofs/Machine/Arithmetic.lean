import Mathlib.Algebra.Group.Int.Defs
import TypeBridge.Power
import TypeBridge.Proofs.Outcome

/-!
Arithmetic in words of fixed width. An operation has the exact result or none: it stops where the result
does not fit the word, where a narrowing would lose digits, and where a divisor is zero. A calculation
that goes through is therefore the exact one, at every step.
-/
namespace TypeBridge.Machine

structure Word where
  least : Int
  greatest : Int
  deriving DecidableEq

def signed (bits : Nat) : Word := ⟨-(twoTo (bits - 1) : Int), twoTo (bits - 1) - 1⟩

def unsigned (bits : Nat) : Word := ⟨0, twoTo bits - 1⟩

def Word.Holds (word : Word) (value : Int) : Prop := word.least ≤ value ∧ value ≤ word.greatest

instance (word : Word) (value : Int) : Decidable (word.Holds value) := inferInstanceAs (Decidable (_ ∧ _))

inductive Mishap where
  | overflow (word : Word) (exact : Int)
  | lossyNarrowing (word : Word) (value : Int)
  | zeroDivisor
  /-- An argument that the function it is handed to does not take. -/
  | outsideDomain (value : Int)
  deriving DecidableEq

abbrev Checked (α : Type) := Except Mishap α

variable (word : Word)

/-- The result of an operation, when the word can hold it. -/
def fits (exact : Int) : Checked Int := if word.Holds exact then .ok exact else .error (.overflow word exact)

def sum (left right : Int) : Checked Int := fits word (left + right)

def difference (left right : Int) : Checked Int := fits word (left - right)

def product (left right : Int) : Checked Int := fits word (left * right)

def power (base exponent : Int) : Checked Int := fits word (base ^ exponent.toNat)

def quotient (left right : Int) : Checked Int :=
  if right = 0 then .error .zeroDivisor else fits word (left.tdiv right)

def remainder (left right : Int) : Checked Int :=
  if right = 0 then .error .zeroDivisor else (fun _ => left.tmod right) <$> fits word (left.tdiv right)

def floorQuotient (left right : Int) : Checked Int :=
  if right = 0 then .error .zeroDivisor else fits word (left / right)

def floorRemainder (left right : Int) : Checked Int :=
  if right = 0 then .error .zeroDivisor else (fun _ => left % right) <$> fits word (left / right)

def narrow (value : Int) : Checked Int :=
  if word.Holds value then .ok value else .error (.lossyNarrowing word value)

/-- The number itself where the word can hold it, for operations that ask before they act. -/
def within? (exact : Int) : Option Int := if word.Holds exact then some exact else none

variable {word}

theorem fits_eq_ok {exact : Int} (held : word.Holds exact) : fits word exact = .ok exact := if_pos held

theorem power_eq_ok {base exponent : Int} (held : word.Holds (base ^ exponent.toNat)) :
    power word base exponent = .ok (base ^ exponent.toNat) := if_pos held

theorem narrow_eq_ok {value : Int} (held : word.Holds value) : narrow word value = .ok value := if_pos held

theorem eq_of_within? {exact value : Int} (h : within? word exact = some value) : value = exact := by
  unfold within? at h
  split at h
  next => exact (Option.some.inj h).symm
  next => cases h

/-- A word that has zero and a number has all between them. -/
theorem Word.Holds.between {value between : Int} (held : word.Holds value) (zero : word.Holds 0)
    (low : min 0 value ≤ between) (high : between ≤ max 0 value) : word.Holds between := by
  obtain ⟨least, greatest⟩ := held
  obtain ⟨leastZero, greatestZero⟩ := zero
  exact ⟨by omega, by omega⟩

theorem tdiv_between (left : Int) {right : Int} (positive : 0 < right) :
    min 0 left ≤ left.tdiv right ∧ left.tdiv right ≤ max 0 left := by
  have whole := Int.mul_tdiv_add_tmod left right
  by_cases natural : 0 ≤ left
  · have quotient := Int.tdiv_nonneg natural (Int.le_of_lt positive)
    have most := Int.tdiv_le_self right natural
    omega
  · have opposite : left.tdiv right = -((-left).tdiv right) := by rw [Int.neg_tdiv, Int.neg_neg]
    have quotient := Int.tdiv_nonneg (show 0 ≤ -left by omega) (Int.le_of_lt positive)
    have most := Int.tdiv_le_self right (show 0 ≤ -left by omega)
    omega

theorem ediv_between (left : Int) {right : Int} (positive : 0 < right) :
    min 0 left ≤ left / right ∧ left / right ≤ max 0 left := by
  by_cases natural : 0 ≤ left
  · have quotient := Int.ediv_nonneg natural (Int.le_of_lt positive)
    have most := Int.ediv_le_self right natural
    omega
  · have below := Int.ediv_neg_of_neg_of_pos (Int.not_le.mp natural) positive
    have scaled := Int.mul_le_mul_of_nonpos_left (show left ≤ 0 by omega) (show 1 ≤ right by omega)
    rw [Int.mul_one] at scaled
    have least := Int.le_ediv_of_mul_le positive scaled
    omega

variable {left right : Int} (held : word.Holds left) (zero : word.Holds 0) (positive : 0 < right)
include held zero positive

theorem quotient_eq_ok : quotient word left right = .ok (left.tdiv right) := by
  obtain ⟨low, high⟩ := tdiv_between left positive
  rw [quotient, if_neg (Int.ne_of_gt positive), fits_eq_ok (held.between zero low high)]

theorem remainder_eq_ok : remainder word left right = .ok (left.tmod right) := by
  obtain ⟨low, high⟩ := tdiv_between left positive
  rw [remainder, if_neg (Int.ne_of_gt positive), fits_eq_ok (held.between zero low high)]
  rfl

theorem floorQuotient_eq_ok : floorQuotient word left right = .ok (left / right) := by
  obtain ⟨low, high⟩ := ediv_between left positive
  rw [floorQuotient, if_neg (Int.ne_of_gt positive), fits_eq_ok (held.between zero low high)]

theorem floorRemainder_eq_ok : floorRemainder word left right = .ok (left % right) := by
  obtain ⟨low, high⟩ := ediv_between left positive
  rw [floorRemainder, if_neg (Int.ne_of_gt positive), fits_eq_ok (held.between zero low high)]
  rfl

omit held zero positive

/-- Of the least word the opposite is missing, so it is no quotient either. -/
example : quotient (signed 64) (-9223372036854775808) (-1) =
    .error (.overflow (signed 64) 9223372036854775808) := rfl

end TypeBridge.Machine
