import Closeness.Decimal.Layout

/-!
# Fixed notation

A number rounded to a count of places after the point, and the trimmed form
of that text.  Trimming drops the zeros at the end of the whole text and puts
one back if a point is then last; a text without a point is trimmed too.
-/

namespace Closeness

namespace Decimal

/-- A whole number of units of `10 ^ (-places)` in fixed notation. -/
def fixedForm (places units : Nat) : List Char :=
  let whole := decimalDigits (units / Nat.pow 10 places)
  if places = 0 then
    whole
  else
    whole ++ '.' :: (decimalDigits (units % Nat.pow 10 places)).leftpad places '0'

/-- Without zeros at the end, save the one after a point that would be last. -/
def trimFixed (text : List Char) : List Char :=
  let kept := Text.dropTrailing (· == '0') text
  if kept.getLast? = some '.' then kept ++ ['0'] else kept

end Decimal

namespace Binary

variable {format : Format}

/-- A number in fixed notation with a count of places after the point. -/
def fixed (number : Binary format) (places : Nat) : List Char :=
  number.render fun _ => Decimal.fixedForm places (number.roundAt (-(places : Int)))

/--
A number in fixed notation, trimmed.  The exact expansion of a finite number
has at most `scale` places, so the zeros beyond them need not be written first.
-/
def trimmed (number : Binary format) (places : Nat) : List Char :=
  if number.isFinite then
    Decimal.trimFixed (number.fixed (min places format.scale))
  else
    number.fixed places

end Binary

end Closeness
