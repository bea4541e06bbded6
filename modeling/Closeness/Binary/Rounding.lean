import Closeness.Binary.Basic
import Closeness.HalfEven

/-!
# Rounding to a binary format

A non-negative ratio, measured in multiples of the least positive number of a
format, is rounded to the nearest code.  The whole part of the ratio fixes
the binade: its numbers are the multiples of `2 ^ shift` whose quotient by
`2 ^ shift` has at most one bit more than the fraction field.  That quotient
is rounded to the nearest whole number.

In a binade with shift `shift` the code of the multiple `significand * 2 ^ shift`
is `shift * hidden + significand`.  The same expression is right when rounding
carries into the next binade and when nothing is shifted, so subnormal
results, carries and normal results need no separate treatment.  A code that
passes infinity is infinity.
-/

namespace Closeness

namespace Format

/-- Number of bits by which a magnitude in units exceeds the significand. -/
def shiftOf (format : Format) (units : Nat) : Nat :=
  units.log2 - format.fractionBits

/-- The code nearest to a ratio in units, a half going to the even code. -/
def nearestCode (format : Format) (numerator denominator : Nat) : Nat :=
  let shift := format.shiftOf (numerator / denominator)
  let significand := roundHalfEven numerator (denominator * Nat.pow 2 shift)
  min (shift * format.hidden + significand) format.infinityCode

theorem nearestCode_le_infinityCode
    (format : Format)
    (numerator denominator : Nat) :
    format.nearestCode numerator denominator ≤ format.infinityCode :=
  Nat.min_le_right _ _

end Format

namespace Binary

variable {format : Format}

/-- The number nearest to a ratio of units, with a given sign. -/
def ofRatio (negative : Bool) (numerator denominator : Nat) : Binary format :=
  ⟨negative, format.nearestCode numerator denominator,
    Nat.lt_of_le_of_lt (format.nearestCode_le_infinityCode _ _)
      format.infinityCode_lt_codeCount⟩

/-- The number nearest to an integer; zero is positive. -/
def ofInt (value : Int) : Binary format :=
  ofRatio (value < 0) (value.natAbs * format.unitsOfOne) 1

/-- Rounding never yields a NaN. -/
@[simp]
theorem isNaN_ofRatio
    (negative : Bool)
    (numerator denominator : Nat) :
    (ofRatio negative numerator denominator : Binary format).isNaN = false := by
  have bound := format.nearestCode_le_infinityCode numerator denominator
  exact decide_eq_false (Nat.not_lt.mpr bound)

@[simp]
theorem isNaN_ofInt
    (value : Int) :
    (ofInt value : Binary format).isNaN = false :=
  isNaN_ofRatio ..

end Binary

end Closeness
