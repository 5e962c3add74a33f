import TypeBridge.Proofs.Decimal.Runs

/-!
Decimals read back from their own text. All digits of the scale are written, so a scale of at most 28 has a
place for each of them and the scale comes back with the number.
-/
namespace TypeBridge.Decimal

open TypeBridge.Text

theorem make?_self (value : Decimal) :
    make? value.negative value.coefficient value.scale = some value := by
  obtain ⟨negative, coefficient, scale, bound, unsigned⟩ := value
  have sign : (negative && coefficient != 0) = negative := by
    by_cases zero : coefficient = 0
    · simp [zero, unsigned zero]
    · simp [zero]
  simp only [make?, dif_pos bound, sign]

namespace Reading

theorem finish_of_parts {reading : Reading} {value : Decimal} (started : reading.started = true)
    (sign : reading.negative = value.negative) (digits : reading.coefficient = value.coefficient)
    (places : reading.scale = value.scale) : reading.finish = .ok value := by
  rw [finish, if_pos started, sign, digits, places, make?_self]

end Reading

variable (value : Decimal)

def written : Written where
  negative := value.negative
  whole := value.digits.take (value.digits.length - value.scale)
  fraction := value.digits.drop (value.digits.length - value.scale)
  exponent := 0

def unsignedChars : List Char :=
  value.written.whole ++ if value.scale = 0 then [] else '.' :: value.written.fraction

theorem chars_eq : value.chars = (if value.negative then ['-'] else []) ++ value.unsignedChars := by
  rw [chars, unsignedChars, List.append_assoc]
  rfl

theorem isDigit_of_mem_digits {character : Char} (h : character ∈ value.digits) :
    isDigit character = true :=
  isDigit_of_mem_padZeros h

theorem scale_lt_length_digits : value.scale < value.digits.length := by
  rw [digits, padZeros, List.length_append, List.length_replicate]
  omega

theorem length_fraction : value.written.fraction.length = value.scale := by
  have room := value.scale_lt_length_digits
  rw [written, List.length_drop]
  omega

theorem whole_append_fraction : value.written.whole ++ value.written.fraction = value.digits :=
  List.take_append_drop ..

theorem filter_isDigit_fraction : value.written.fraction.filter isDigit = value.written.fraction :=
  List.filter_eq_self.mpr fun _ member => value.isDigit_of_mem_digits (List.mem_of_mem_drop member)

theorem places_written : value.written.places = value.scale := by
  rw [Written.places, filter_isDigit_fraction, length_fraction]

theorem coefficient_written : value.written.coefficient = value.coefficient := by
  have all : value.digits.filter isDigit = value.digits :=
    List.filter_eq_self.mpr fun _ member => value.isDigit_of_mem_digits member
  rw [Written.coefficient, whole_append_fraction, all, digits, digitsValue_padZeros]

theorem exists_first : ∃ first rest, value.written.whole = first :: rest ∧ isDigit first = true := by
  have room := value.scale_lt_length_digits
  obtain ⟨first, rest, parts⟩ : ∃ first rest, value.written.whole = first :: rest := by
    apply List.exists_cons_of_length_pos
    rw [written, List.length_take]
    omega
  exact ⟨first, rest, parts, value.isDigit_of_mem_digits (List.mem_of_mem_take (parts ▸ List.mem_cons_self))⟩

theorem takeSign_chars : takeSign value.chars = (value.negative, value.unsignedChars) := by
  obtain ⟨first, rest, parts, digit⟩ := value.exists_first
  rw [chars_eq]
  cases value.negative with
  | true => rfl
  | false =>
    have unsigned : ∀ mark, isDigit mark = false → value.unsignedChars.head? ≠ some mark := by
      intro mark other same
      rw [unsignedChars, parts, List.cons_append, List.head?_cons, Option.some.injEq] at same
      rw [← same, digit] at other
      cases other
    exact takeSign_unsigned (unsigned '-' rfl) (unsigned '+' rfl)

theorem unmarked_of_isDigit {character : Char} (digit : isDigit character = true) :
    isExponentMark character = false := by
  rw [isExponentMark, Bool.or_eq_false_iff, beq_eq_false_iff_ne, beq_eq_false_iff_ne]
  constructor <;> rintro rfl <;> cases digit

theorem spells_written : Spells value.written value.chars value.unsignedChars [] where
  sign := by rw [takeSign_chars, List.append_nil]; rfl
  unmarked := by
    intro character member
    rw [unsignedChars] at member
    rcases List.mem_append.mp member with whole | later
    · exact unmarked_of_isDigit (value.isDigit_of_mem_digits (List.mem_of_mem_take whole))
    · split at later
      next => cases later
      next =>
        rcases List.mem_cons.mp later with rfl | fraction
        · rfl
        · exact unmarked_of_isDigit (value.isDigit_of_mem_digits (List.mem_of_mem_drop fraction))
  parts := by
    rw [unsignedChars]
    split
    next none =>
      have empty := value.length_fraction
      rw [none] at empty
      exact .inl ⟨List.append_nil _, List.length_eq_zero_iff.mp empty⟩
    next => exact .inr rfl
  digital := by
    rw [whole_append_fraction, List.all_eq_true]
    intro character member
    rw [isDigital, value.isDigit_of_mem_digits member]
    rfl
  first := by
    obtain ⟨first, rest, parts, digit⟩ := value.exists_first
    rw [parts]
    exact digit
  ending := .inl ⟨rfl, rfl⟩

variable {value}

theorem whole_written (short : value.scale ≤ maxScale) : value.written.Whole := by
  constructor
  · have bound := value.coefficient_lt
    rw [coefficient_written, maxCoefficient]
    omega
  · have few := List.length_filter_le isDigit value.written.fraction.dropLast
    rw [List.length_dropLast, length_fraction] at few
    have places : maxScale = 28 := rfl
    omega

/-- A decimal is read back from its text as it is, with its scale. -/
theorem read_chars (short : value.scale ≤ maxScale) : Decimal.read value.chars = .ok value := by
  have spells := value.spells_written
  have takes := value.written.takes_pointed_iff.mpr (whole_written short)
  have fits : value.written.pointed.coefficient ≤ maxCoefficient :=
    Nat.le_trans (Reading.coefficient_le_advance _) takes.1
  have plain : readPlain value.chars = .ok value := by
    obtain ⟨first, rest, parts, digit⟩ := value.exists_first
    have started : value.written.whole.any isDigit = true := by rw [parts, List.any_cons, digit]; rfl
    rw [spells.readPlain_eq, List.append_nil, unsignedChars, spells.run_whole fits]
    split
    next none =>
      have empty : value.written.fraction = [] := by
        rw [← List.length_eq_zero_iff, length_fraction, none]
      rw [Reading.run]
      refine Reading.finish_of_parts started rfl ?_ none.symm
      rw [← coefficient_written, Written.coefficient, empty, List.append_nil]
      rfl
    next =>
      have run := Reading.run_takes spells.allDigital.2 spells.ready.2 (fun _ => rfl) takes []
      rw [List.append_nil, Reading.run] at run
      rw [Reading.run_point rfl]
      refine run.trans (Reading.finish_of_parts ?_ rfl ?_ ?_)
      · exact Bool.or_eq_true_iff.mpr (.inl started)
      · rw [Written.coefficient_pointed, ← coefficient_written, Written.coefficient]
      · rw [Written.scale_pointed, ← places_written, Written.places]
  rw [Decimal.read, plain]

end TypeBridge.Decimal
