import Closeness.Decimal.Layout
import Closeness.Decimal.Literal

/-!
# The shortest text that reads back

For one digit, two digits and so on, the two neighbours of a magnitude on the
decimal grid of its leading place are read back.  The first grid on which one
of them gives the number again determines the digits; the nearer neighbour is
tried first, and of two equally near ones the even one.
-/

namespace Closeness.Binary

variable {format : Format}

/-- The neighbours of a magnitude among the multiples of `10 ^ place`, the nearer one first. -/
def gridNeighbours (number : Binary format) (place : Int) : List Nat :=
  let low := number.placeNumerator place / number.placeDenominator place
  let nearest := number.roundAt place
  [nearest, 2 * low + 1 - nearest]

/-- A multiple of `10 ^ place` that reads as the number. -/
def readsBack (number : Binary format) (place : Int) (multiple : Nat) : Bool :=
  ofDecimal number.negative multiple place == number

/-- The digits on the grid of a given count of digits that read back, if any do. -/
def shortestOn? (number : Binary format) (count : Nat) : Option Significant :=
  let exponent := number.decimalExponent
  let place := exponent - (count - 1)
  ((number.gridNeighbours place).find? (number.readsBack place)).map fun multiple =>
    if multiple = Nat.pow 10 count then ⟨1, exponent + 1⟩ else ⟨multiple, exponent⟩

/--
The fewest digits that read back.  As many digits as the format has bits are
always enough.
-/
def shortestDigits (number : Binary format) : Significant :=
  ((List.range format.bits).findSome? fun fewer => number.shortestOn? (fewer + 1)).getD
    (number.significant format.bits)

/--
The shortest text that reads back, in the plain layout.  The exponent of the
number itself decides on the form, even if its digits are rounded up to the
next power of ten.
-/
def shortest (number : Binary format) : List Char :=
  number.render fun _ =>
    if number.isZero then
      ['0', '.', '0']
    else
      let found := number.shortestDigits
      Decimal.write .plain number.decimalExponent
        (Decimal.trimDigits (decimalDigits found.significand)) found.exponent

end Closeness.Binary
