import Closeness.Binary.Rounding

/-!
# Decimal places of a binary number

A finite number is a whole number of units over `2 ^ scale`, and so a whole
number over `10 ^ scale` as well: its exact decimal expansion is
`magnitude * 5 ^ scale` with the point `scale` places from the right.  This
module finds the place of the leading digit, rounds a magnitude at any decimal
place, and rounds it to a count of significant digits.
-/

namespace Closeness

/-- The decimal digits of a natural number, without leading zeros. -/
abbrev decimalDigits (value : Nat) : List Char :=
  Nat.toDigits 10 value

/-- Significant digits of a positive number and the exponent of the first one. -/
structure Significant where
  /-- The digits, read as a whole number. -/
  significand : Nat
  /-- The leading digit counts multiples of `10 ^ exponent`. -/
  exponent : Int
deriving DecidableEq

namespace Binary

variable {format : Format}

/-- The exponent of the leading decimal digit of a positive magnitude. -/
def decimalExponent (number : Binary format) : Int :=
  (decimalDigits (number.magnitude * Nat.pow 5 format.scale)).length - 1 - format.scale

/-- Numerator of the magnitude in multiples of `10 ^ place`. -/
def placeNumerator (number : Binary format) (place : Int) : Nat :=
  number.magnitude * Nat.pow 10 (-place).toNat

/-- Denominator of the magnitude in multiples of `10 ^ place`. -/
def placeDenominator (_number : Binary format) (place : Int) : Nat :=
  format.unitsOfOne * Nat.pow 10 place.toNat

/-- The magnitude in multiples of `10 ^ place`, a half going to the even neighbour. -/
def roundAt (number : Binary format) (place : Int) : Nat :=
  roundHalfEven (number.placeNumerator place) (number.placeDenominator place)

/--
The magnitude rounded to a count of significant digits.  When rounding carries
into a new leading digit, the exponent grows by one.
-/
def significant (number : Binary format) (count : Nat) : Significant :=
  let exponent := number.decimalExponent
  let rounded := number.roundAt (exponent - (count - 1))
  if number.isZero then ⟨0, 0⟩
  else if rounded = Nat.pow 10 count then ⟨Nat.pow 10 (count - 1), exponent + 1⟩
  else ⟨rounded, exponent⟩

theorem placeDenominator_pos
    (number : Binary format)
    (place : Int) :
    0 < number.placeDenominator place :=
  Nat.mul_pos format.unitsOfOne_pos (Nat.pow_pos (by decide))

end Binary

end Closeness
