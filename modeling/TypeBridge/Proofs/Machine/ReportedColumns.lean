import TypeBridge.Proofs.Column.Numbers
import TypeBridge.Proofs.Machine.Codec

/-!
The numbers of a column in words. A driver reports sizes and digits as signed words of 32 bits. What is
calculated from them goes through, except near the least word: its opposite is missing, and from the width
of a time nothing can be taken off there. Everywhere else the exact numbers of the columns are the words.
-/
namespace TypeBridge.Machine

open TypeBridge.Temporal (timeWidth timestampWidth verifyPrecision)

/-- A column that a driver can report. -/
structure Reported (descriptor : Descriptor) : Prop where
  size : ∀ size ∈ descriptor.columnSize, (signed 32).Holds size
  digits : ∀ digits ∈ descriptor.decimalDigits, (signed 32).Holds digits

def opposite (word : Word) (value : Int) : Checked Int := fits word (-value)

/-- The width of a number: its digits are turned around in a short word and added in a long one. -/
def declaredWidth (precision digits : Int) : Checked Int := do
  let before ← opposite (signed 32) digits
  sum (signed 64) precision (max before 0)

def fractionWidth (width baseline : Int) : Checked Int := do
  difference (signed 32) (← difference (signed 32) width baseline) 1

def timePrecision (mode : Mode) (width : Int) : Checked (Except Error Nat) :=
  if width = timeWidth then .ok (.ok 0)
  else do return verifyPrecision mode (← fractionWidth width timeWidth)

def timestampPrecision (mode : Mode) (width scale : Int) : Checked (Except Error Nat) :=
  if width < timestampWidth then .ok (verifyPrecision mode scale)
  else if width = timestampWidth then .ok (.ok 0)
  else do return verifyPrecision mode (← fractionWidth width timestampWidth)

theorem fits_eq_error {word : Word} {exact : Int} (wide : ¬word.Holds exact) :
    fits word exact = .error (.overflow word exact) := if_neg wide

theorem opposite_eq_ok {digits : Int} (held : (signed 32).Holds digits) :
    opposite (signed 32) digits = .ok (-digits) ↔ digits ≠ -2147483648 := by
  rw [holds_signed32] at held
  constructor
  · rintro goes rfl
    have stops : opposite (signed 32) (-2147483648) = .error (.overflow (signed 32) 2147483648) :=
      fits_eq_error (by decide)
    cases goes.symm.trans stops
  · intro other
    exact fits_eq_ok (holds_signed32.mpr (by omega))

/-- The width of a number goes through unless its digits are the least word. -/
theorem declaredWidth_eq_ok {precision digits : Int} (size : (signed 32).Holds precision)
    (held : (signed 32).Holds digits) :
    declaredWidth precision digits = .ok (ColumnMapping.declaredWidth precision digits) ↔
      digits ≠ -2147483648 := by
  rw [← opposite_eq_ok held]
  rw [holds_signed32] at size held
  constructor
  · intro goes
    obtain ⟨before, turned, -⟩ := bind_eq_ok.mp goes
    unfold opposite fits at turned ⊢
    split at turned
    next fitting => exact if_pos fitting
    next => cases turned
  · intro turned
    have total : (signed 64).Holds (precision + max (-digits) 0) := holds_signed64.mpr (by omega)
    exact bind_eq_ok.mpr ⟨_, turned, fits_eq_ok total⟩

theorem fractionWidth_eq_ok {width baseline : Int} (held : (signed 32).Holds width)
    (natural : 0 ≤ baseline) (room : -2147483648 ≤ width - baseline - 1) :
    fractionWidth width baseline = .ok (width - baseline - 1) := by
  rw [holds_signed32] at held
  have first : (signed 32).Holds (width - baseline) := holds_signed32.mpr (by omega)
  have second : (signed 32).Holds (width - baseline - 1) := holds_signed32.mpr (by omega)
  exact bind_eq_ok.mpr ⟨_, fits_eq_ok first, fits_eq_ok second⟩

theorem timePrecision_eq_ok {mode : Mode} {width : Int} (held : (signed 32).Holds width)
    (room : -2147483637 ≤ width) :
    timePrecision mode width = .ok (Temporal.timePrecision mode width) := by
  have baseline : timeWidth = 10 := rfl
  unfold timePrecision Temporal.timePrecision
  split
  next => rfl
  next =>
    have goes := fractionWidth_eq_ok held (by omega) (show -2147483648 ≤ width - timeWidth - 1 by omega)
    rw [goes]
    rfl

theorem timestampPrecision_eq_ok {mode : Mode} {width : Int} (held : (signed 32).Holds width) (scale : Int) :
    timestampPrecision mode width scale = .ok (Temporal.timestampPrecision mode width scale) := by
  have baseline : timestampWidth = 19 := rfl
  unfold timestampPrecision Temporal.timestampPrecision
  split
  next => rfl
  next =>
    split
    next => rfl
    next =>
      have goes := fractionWidth_eq_ok held (by omega)
        (show -2147483648 ≤ width - timestampWidth - 1 by omega)
      rw [goes]
      rfl

/-- What is calculated from a column that a driver reports is calculated in words as it is without bounds, but
for digits that are the least word and for times of a width that no time has. -/
theorem reported_goes_through {descriptor : Descriptor} (reported : Reported descriptor) :
    (∀ precision ∈ descriptor.columnSize, ∀ digits ∈ descriptor.decimalDigits,
      (declaredWidth precision digits = .ok (ColumnMapping.declaredWidth precision digits) ↔
        digits ≠ -2147483648)) ∧
    (∀ width ∈ descriptor.columnSize, ∀ mode,
      (-2147483637 ≤ width → timePrecision mode width = .ok (Temporal.timePrecision mode width)) ∧
      ∀ scale, timestampPrecision mode width scale = .ok (Temporal.timestampPrecision mode width scale)) := by
  refine ⟨fun precision size digits after => ?_, fun width size mode => ⟨fun room => ?_, fun scale => ?_⟩⟩
  · exact declaredWidth_eq_ok (reported.size precision size) (reported.digits digits after)
  · exact timePrecision_eq_ok (reported.size width size) room
  · exact timestampPrecision_eq_ok (reported.size width size) scale

/-- The least word has no opposite, so the width of such a number is not found. -/
example : declaredWidth 10 (-2147483648) = .error (.overflow (signed 32) 2147483648) := rfl

end TypeBridge.Machine
