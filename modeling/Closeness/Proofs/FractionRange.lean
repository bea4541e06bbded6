import Closeness.Proofs.Midpoints
import Closeness.Proofs.Rejection

/-!
# Fractions given in a width

A relative policy for a width is built from target and fraction after both were
rounded to the width, and the rounded fraction is what the check sees.  For the
wider width that is the fraction as given.  For the narrower one fractions next
to the ends of the range change sides: those up to half the least number below
zero become zero and pass, and those from halfway between one and its lower
neighbour become one and do not.
-/

namespace Closeness

open Binary

namespace Width

variable {width : Width} {number : Double}

theorem isBelow_narrow_iff_round
    {bound : ℚ}
    (someNumber : number.isNaN = false) :
    (width.narrow number).IsBelow bound ↔ (width.round number).IsBelow bound := by
  rw [IsBelow, IsBelow, narrow,
    width.extendedValue_widen ((width.isNaN_round number).trans someNumber)]

/--
Rounded to the narrower width, a number lies below `upper`, whose lower
neighbour has an odd code, exactly if it lay below the midpoint of the two.
-/
theorem isBelow_narrow_single_iff
    (lower upper : Binary single.format)
    (lowerFinite : lower.isFinite = true)
    (upperFinite : upper.isFinite = true)
    (next : upper.position = lower.position + 1)
    (odd : lower.code % 2 = 1)
    (someNumber : number.isNaN = false) :
    (single.narrow number).IsBelow upper.value ↔
      number.IsBelow ((lower.value + upper.value) / 2) := by
  rw [isBelow_narrow_iff_round someNumber]
  rcases isFinite_or_isInfinite someNumber with finite | infinite
  · have rounded : Rounds number.value (single.round number) :=
      rounds_convert _ finite
    have upTo := rounded.position_le_iff lowerFinite upperFinite next
    rw [isBelow_value_iff upperFinite rounded.isNaN_eq, isBelow_iff_of_isFinite finite, next,
      Int.lt_add_one_iff, upTo, odd]
    simp
  · have converted : single.round number = infinity number.negative :=
      convert_of_isInfinite infinite
    rw [converted, isBelow_iff_of_isInfinite (isInfinite_infinity _),
      isBelow_iff_of_isInfinite infinite]
    rfl

/-- The least rational that passes for a fraction of a width. -/
def fractionFloor : Width → ℚ
  | single => -(1 / 2 ^ 150)
  | double => 0

/-- The least rational that is too large for a fraction of a width. -/
def fractionCeiling : Width → ℚ
  | single => 1 - 1 / 2 ^ 25
  | double => 1

/-- The single next to zero on the negative side has an odd code, so half of it becomes zero. -/
theorem isBelow_zero_narrow_iff
    (someNumber : number.isNaN = false) :
    (width.narrow number).IsBelow 0 ↔ number.IsBelow width.fractionFloor := by
  cases width with
  | single =>
    have least : (Binary.least true : Binary single.format).value = -(1 / 2 ^ 149) := by
      decide +kernel
    have midpoint :
        ((Binary.least true : Binary single.format).value + 0) / 2 = single.fractionFloor := by
      rw [least, fractionFloor]
      norm_num
    have narrowed :=
      isBelow_narrow_single_iff (.least true) (.zero false)
        (by decide +kernel) (by decide +kernel) (by decide +kernel) (by decide +kernel) someNumber
    rwa [value_zero, midpoint] at narrowed
  | double => rfl

/-- The single below one has an odd code, so the midpoint between them becomes one. -/
theorem isBelow_one_narrow_iff
    (someNumber : number.isNaN = false) :
    (width.narrow number).IsBelow 1 ↔ number.IsBelow width.fractionCeiling := by
  cases width with
  | single =>
    have one : (Binary.ofInt 1 : Binary single.format).value = 1 := by
      decide +kernel
    have lower : (Binary.ofInt 1 : Binary single.format).nextDown.value = 1 - 1 / 2 ^ 24 := by
      decide +kernel
    have midpoint :
        ((Binary.ofInt 1 : Binary single.format).nextDown.value + 1) / 2 =
          single.fractionCeiling := by
      rw [lower, fractionCeiling]
      norm_num
    have narrowed :=
      isBelow_narrow_single_iff (Binary.ofInt 1).nextDown (.ofInt 1)
        (by decide +kernel) (by decide +kernel) (by decide +kernel) (by decide +kernel) someNumber
    rwa [one, midpoint] at narrowed
  | double => rfl

/-- What a fraction is to be refused for, before it is rounded to a width. -/
def Refuses (width : Width) (fraction : Double) : Prop :=
  fraction.isNaN = true ∨
    fraction.IsBelow width.fractionFloor ∨ fraction.Reaches width.fractionCeiling

/-- A fraction is out of range once it is rounded exactly if it was outside the floor and ceiling. -/
theorem outOfRange_narrow_iff
    (width : Width)
    (fraction : Double) :
    (Request.epsilon (width.narrow fraction)).OutOfRange ↔ width.Refuses fraction := by
  rw [Request.OutOfRange, Refuses, isNaN_narrow]
  rcases Bool.eq_false_or_eq_true fraction.isNaN with noNumber | someNumber
  · simp [noNumber]
  · rw [reaches_iff_not_isBelow, reaches_iff_not_isBelow, isBelow_zero_narrow_iff someNumber,
      isBelow_one_narrow_iff someNumber]

end Width

namespace Policy

/--
A relative policy for a width is refused exactly if the fraction, rounded to
the width, is out of range, and otherwise holds target and fraction as they
were rounded.  In terms of the fraction given, NaN is refused, and what lies
below the floor of the width or reaches its ceiling.
-/
theorem nearRelative_settled
    (target epsilon : Double)
    (width : Width) :
    Settled (nearRelative (.leaf (.double target)) (.leaf (.double epsilon)) (.given width))
        (width.narrow target) (.epsilon (width.narrow epsilon)) ∧
      ((Request.epsilon (width.narrow epsilon)).OutOfRange ↔ width.Refuses epsilon) := by
  have built :
      nearRelative (.leaf (.double target)) (.leaf (.double epsilon)) (.given width) =
        checked (width.narrow target) (Request.epsilon (width.narrow epsilon)).check :=
    rfl
  rw [built]
  exact ⟨settled_checked _ trivial, width.outOfRange_narrow_iff epsilon⟩

/--
For the narrower width a fraction below zero may pass, and one in range may be
refused.
-/
theorem nearRelative_single_shifts_range :
    ((Request.epsilon (.least true)).OutOfRange ∧
        (nearRelative (.leaf (.double (.ofInt 1))) (.leaf (.double (.least true)))
            (.given .single)).outcome =
          .ok ⟨.ofInt 1, .epsilon (.zero true)⟩) ∧
      ¬ (Request.epsilon (Binary.ofInt 1 : Double).nextDown).OutOfRange ∧
        (nearRelative (.leaf (.double (.ofInt 1))) (.leaf (.double (Binary.ofInt 1).nextDown))
            (.given .single)).outcome =
          .error (.rejected .epsilonTooLarge) := by
  have least : (Binary.least true : Double).IsBelow 0 := by
    rw [isBelow_iff_of_isFinite (by decide +kernel)]
    decide +kernel
  have lower : ¬ (Binary.ofInt 1 : Double).nextDown.IsBelow 0 := by
    rw [isBelow_iff_of_isFinite (by decide +kernel)]
    decide +kernel
  have upper : ¬ (Binary.ofInt 1 : Double).nextDown.Reaches 1 := by
    rw [reaches_iff_not_isBelow, isBelow_iff_of_isFinite (by decide +kernel)]
    decide +kernel
  refine ⟨⟨Or.inr (Or.inl least), by decide +kernel⟩, ?_, by decide +kernel⟩
  rintro (noNumber | below | above)
  · exact absurd noNumber (by decide +kernel)
  · exact lower below
  · exact upper above

end Policy

end Closeness
