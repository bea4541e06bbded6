import Closeness.Decimal.Layout
import Closeness.Decimal.Literal

/-!
# Reading and writing whole numbers

The text of a whole number is an optional sign and digits, with white space
around it.  Digits of every script count, and an underscore may stand between
two digits.  Texts with more digits than a limit are refused, even if something
that is no digit follows.  The same limit holds for the digits that are
written: a whole number with more of them has no text.
-/

namespace Closeness.Decimal

/-- Why a text does not denote a whole number. -/
inductive WholeFault where
  /-- The text is not a sign and digits. -/
  | malformed
  /-- The text has more digits than are read. -/
  | tooLong (digits : Nat)
deriving DecidableEq

/-- The most digits that are read and written. -/
def wholeDigitsLimit : Nat :=
  4300

/-- A digit, or the underscore between digits. -/
def isDigitOrSeparator (character : Char) : Bool :=
  character.isDigit || character == '_'

/-- The whole number that a text denotes. -/
def readWhole (text : List Char) : Except WholeFault Int :=
  let (negative, rest) := takeSign ((text.dropWhile Text.isBlank).map Text.asciiDigit)
  match dropSeparators? false (rest.takeWhile isDigitOrSeparator) with
  | none | some [] => .error .malformed
  | some digits =>
    if wholeDigitsLimit < digits.length then
      .error (.tooLong digits.length)
    else if (rest.dropWhile isDigitOrSeparator).all Text.isBlank then
      let magnitude : Int := Nat.ofDigitChars 10 digits 0
      .ok (if negative then -magnitude else magnitude)
    else
      .error .malformed

/-- The text of a whole number, if it has no more digits than are written. -/
def writeWhole? (value : Int) : Option (List Char) :=
  let digits := decimalDigits value.natAbs
  if wholeDigitsLimit < digits.length then none else some (sign (value < 0) ++ digits)

theorem writeWhole?_of_le
    {value : Int}
    (short : (decimalDigits value.natAbs).length ≤ wholeDigitsLimit) :
    writeWhole? value = some (sign (value < 0) ++ decimalDigits value.natAbs) :=
  if_neg (Nat.not_lt.mpr short)

theorem writeWhole?_of_lt
    {value : Int}
    (long : wholeDigitsLimit < (decimalDigits value.natAbs).length) :
    writeWhole? value = none :=
  if_pos long

end Closeness.Decimal
