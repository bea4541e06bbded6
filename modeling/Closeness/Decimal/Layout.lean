import Closeness.Decimal.Place
import Closeness.Text.Blank

/-!
# Layouts of decimal text

The same digits can be written positionally, with a point at its place, or
with an exponent.  A layout says for which exponents the positional form is
used and whether a whole number still shows a point.
-/

namespace Closeness

/-- The choices between the written forms of a decimal number. -/
structure Layout where
  /-- Exponents from `-4` up to this one, itself excluded, are written positionally. -/
  positionalBelow : Int
  /-- What a whole number in positional form ends with. -/
  wholeEnding : List Char

namespace Layout

/-- Whole numbers of at most six digits in full, without a point after them. -/
def general : Layout where
  positionalBelow := 6
  wholeEnding := []

/-- Whole numbers of at most sixteen digits in full, with a point and a zero after them. -/
def plain : Layout where
  positionalBelow := 16
  wholeEnding := ['.', '0']

/-- Numbers with an exponent are written positionally. -/
def isPositional (layout : Layout) (exponent : Int) : Bool :=
  -4 ≤ exponent && exponent < layout.positionalBelow

end Layout

namespace Decimal

/-- The sign of a number as text: a minus for negative numbers, negative zero included. -/
def sign (negative : Bool) : List Char :=
  if negative then ['-'] else []

/-- An exponent with its sign and at least two digits. -/
def exponentMark (exponent : Int) : List Char :=
  'e' :: (if exponent < 0 then '-' else '+') ::
    (decimalDigits exponent.natAbs).leftpad 2 '0'

/-- One digit, a point if more follow, the others, and an exponent. -/
def scientificForm (digits : List Char) (exponent : Int) : List Char :=
  digits.take 1 ++ (if digits.length ≤ 1 then [] else '.' :: digits.drop 1) ++
    exponentMark exponent

/-- Digits with a point at its place, and zeros where the digits do not reach. -/
def positionalForm (wholeEnding digits : List Char) (exponent : Int) : List Char :=
  if exponent < 0 then
    '0' :: '.' :: List.replicate (-exponent - 1).toNat '0' ++ digits
  else
    let count := exponent.toNat + 1
    (digits.take count).rightpad count '0' ++
      if digits.length ≤ count then wholeEnding else '.' :: digits.drop count

/-- Digits without zeros at the end, in the form that a layout chooses for an exponent. -/
def write (layout : Layout) (chosen : Int) (digits : List Char) (exponent : Int) : List Char :=
  if layout.isPositional chosen then
    positionalForm layout.wholeEnding digits exponent
  else
    scientificForm digits exponent

/-- Digits without zeros at the end; a single zero stays. -/
def trimDigits (digits : List Char) : List Char :=
  digits.take 1 ++ Text.dropTrailing (· == '0') (digits.drop 1)

end Decimal

namespace Binary

variable {format : Format}

/--
The text of a number, given that of its magnitude if it is finite.  NaN has no
sign, whatever its sign bit.
-/
def render (number : Binary format) (finite : Unit → List Char) : List Char :=
  if number.isNaN then
    ['n', 'a', 'n']
  else
    Decimal.sign number.negative ++
      if number.isInfinite then ['i', 'n', 'f'] else finite ()

variable
    {number : Binary format}
    (finite : Unit → List Char)

theorem render_of_isNaN
    (noNumber : number.isNaN = true) :
    number.render finite = ['n', 'a', 'n'] :=
  if_pos noNumber

theorem render_of_isInfinite
    (infinite : number.isInfinite = true) :
    number.render finite = Decimal.sign number.negative ++ ['i', 'n', 'f'] := by
  rw [render, if_neg (by simp [isNaN_of_isInfinite infinite]), if_pos infinite]

end Binary

end Closeness
