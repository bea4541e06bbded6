import Mathlib.Algebra.Order.Field.Basic
import Mathlib.Algebra.Order.Field.Rat
import Mathlib.Data.Int.ConditionallyCompleteOrder
import Mathlib.Data.Rat.Cast.Order
import Mathlib.Tactic.Linarith
import Closeness.Proofs.Spacing
import Closeness.Binary.Basic

/-!
# Values of finite numbers

A finite number stands for a rational: its units over `unitsOfOne`.  Units and
value depend on the position alone, and grow strictly with it.  Hence the
comparisons of a format, which read positions, compare values.
-/

namespace Closeness

namespace Format

variable (format : Format)

/-- The units at a position: the magnitude of the code, with the sign. -/
def unitsAt (position : Int) : Int :=
  if position < 0 then
    -(format.unitsOfCode position.natAbs : Int)
  else
    format.unitsOfCode position.natAbs

theorem unitsAt_neg
    (position : Int) :
    format.unitsAt (-position) = -format.unitsAt position := by
  rcases Int.lt_trichotomy position 0 with negative | rfl | positive
  · simp [unitsAt, negative, Int.le_of_lt negative]
  · simp [unitsAt]
  · have notNegative : ¬ position < 0 := by omega
    simp [unitsAt, positive, notNegative]

theorem unitsAt_natCast
    (code : Nat) :
    format.unitsAt code = format.unitsOfCode code := by
  simp [unitsAt]

/-- Units grow strictly with the position. -/
theorem unitsAt_strictMono :
    StrictMono format.unitsAt := by
  have nonneg : ∀ {left right : Nat}, left < right →
      (format.unitsOfCode left : Int) < format.unitsOfCode right := by
    intro left right ordered
    exact_mod_cast format.unitsOfCode_strictMono ordered
  intro left right ordered
  rw [unitsAt, unitsAt]
  split
  · next leftNegative =>
    split
    · next rightNegative =>
      have codes : right.natAbs < left.natAbs := by omega
      have magnitudes := nonneg codes
      omega
    · next rightNonneg =>
      have codes : 0 < left.natAbs := by omega
      have magnitudes := nonneg codes
      rw [unitsOfCode_zero] at magnitudes
      omega
  · next leftNonneg =>
    have rightNonneg : ¬ right < 0 := by omega
    rw [if_neg rightNonneg]
    exact nonneg (by omega)

theorem unitsOfOne_pos_rat : (0 : ℚ) < format.unitsOfOne := by
  exact_mod_cast format.unitsOfOne_pos

/-- The rational number at a position. -/
def valueAt (position : Int) : ℚ :=
  format.unitsAt position / format.unitsOfOne

theorem valueAt_strictMono :
    StrictMono format.valueAt := by
  intro left right ordered
  rw [valueAt, valueAt]
  apply div_lt_div_of_pos_right _ format.unitsOfOne_pos_rat
  exact_mod_cast format.unitsAt_strictMono ordered

end Format

namespace Binary

variable {format : Format}

/-- The rational number that a finite number stands for. -/
def value (number : Binary format) : ℚ :=
  number.units / format.unitsOfOne

theorem units_eq_unitsAt
    (number : Binary format) :
    number.units = format.unitsAt number.position := by
  cases sign : number.negative with
  | false =>
      simp [units, magnitude, position, sign, Format.unitsAt]
  | true =>
      simp only [units, magnitude, position, sign, if_true]
      rw [Format.unitsAt_neg, Format.unitsAt_natCast]

theorem value_eq_valueAt
    (number : Binary format) :
    number.value = format.valueAt number.position := by
  rw [value, units_eq_unitsAt, Format.valueAt]

@[simp]
theorem value_zero
    (negative : Bool) :
    (zero negative : Binary format).value = 0 := by
  simp [value_eq_valueAt, Format.valueAt, Format.unitsAt]

theorem abs_units
    (number : Binary format) :
    |number.units| = number.magnitude := by
  cases sign : number.negative <;> simp [units, sign]

/-- The rational number that a finite number stands for, without its sign. -/
def absValue (number : Binary format) : ℚ :=
  number.magnitude / format.unitsOfOne

theorem abs_value
    (number : Binary format) :
    |number.value| = number.absValue := by
  have magnitudes : |(number.units : ℚ)| = number.magnitude := by
    exact_mod_cast number.abs_units
  rw [value, abs_div, abs_of_pos format.unitsOfOne_pos_rat, magnitudes, absValue]

theorem absValue_mul_unitsOfOne
    (number : Binary format) :
    number.absValue * format.unitsOfOne = format.unitsOfCode number.code := by
  rw [absValue, div_mul_cancel₀ _ format.unitsOfOne_pos_rat.ne', magnitude]

theorem magnitude_pos
    {number : Binary format}
    (notZero : number.isZero = false) :
    0 < number.magnitude := by
  have codePositive : 0 < number.code := by
    rw [Nat.pos_iff_ne_zero]
    intro zeroCode
    rw [isZero, zeroCode] at notZero
    exact absurd notZero (by decide)
  rw [magnitude, ← format.unitsOfCode_zero]
  exact format.unitsOfCode_strictMono codePositive

theorem absValue_pos
    {number : Binary format}
    (notZero : number.isZero = false) :
    0 < number.absValue := by
  have positive : (0 : ℚ) < number.magnitude := by
    exact_mod_cast magnitude_pos notZero
  exact div_pos positive format.unitsOfOne_pos_rat

/-- The order of values is the order of positions. -/
theorem value_le_iff
    {left right : Binary format} :
    left.value ≤ right.value ↔ left.position ≤ right.position := by
  rw [value_eq_valueAt, value_eq_valueAt]
  exact format.valueAt_strictMono.le_iff_le

theorem value_lt_iff
    {left right : Binary format} :
    left.value < right.value ↔ left.position < right.position := by
  rw [value_eq_valueAt, value_eq_valueAt]
  exact format.valueAt_strictMono.lt_iff_lt

theorem value_eq_iff
    {left right : Binary format} :
    left.value = right.value ↔ left.position = right.position := by
  rw [value_eq_valueAt, value_eq_valueAt]
  exact format.valueAt_strictMono.injective.eq_iff

/-- Every position short of infinity is that of a finite number. -/
theorem exists_position_eq
    {position : Int}
    (short : position.natAbs < format.infinityCode) :
    ∃ number : Binary format,
      number.isFinite = true ∧ number.position = position := by
  refine
    ⟨⟨decide (position < 0), position.natAbs,
      short.trans format.infinityCode_lt_codeCount⟩, ?_, ?_⟩
  · exact isFinite_iff.mpr short
  · simp only [Binary.position, decide_eq_true_eq]
    split <;> omega

end Binary

end Closeness
