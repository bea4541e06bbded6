import Closeness.Decimal.Layout

/-!
# Scientific notation and the general form

Scientific notation writes a count of significant digits and always an
exponent.  The general form writes six significant digits, drops the zeros at
their end and chooses the form by the exponent after rounding.
-/

namespace Closeness

namespace Significant

/-- The significand as a given count of digits. -/
def digits (number : Significant) (count : Nat) : List Char :=
  (decimalDigits number.significand).leftpad count '0'

end Significant

namespace Binary

variable {format : Format}

/-- A number in scientific notation with a count of significant digits. -/
def scientific (number : Binary format) (count : Nat) : List Char :=
  number.render fun _ =>
    let rounded := number.significant count
    Decimal.scientificForm (rounded.digits count) rounded.exponent

/-- A number in the general form with six significant digits. -/
def general (number : Binary format) : List Char :=
  number.render fun _ =>
    let rounded := number.significant 6
    Decimal.write .general rounded.exponent (Decimal.trimDigits (rounded.digits 6))
      rounded.exponent

end Binary

end Closeness
