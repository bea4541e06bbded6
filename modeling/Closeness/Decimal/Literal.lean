import Closeness.Binary.Rounding
import Closeness.Decimal.Place
import Closeness.Text.Blank
import Closeness.Text.Digit

/-!
# Reading numbers

A literal is an optional sign followed by a name (`inf`, `infinity` or `nan`,
in any case) or by a decimal: digits with at most one point, at least one
digit, and an optional exponent.  White space around it is ignored, digits of
every script count, and an underscore may stand between two digits.  A decimal
is read as the number nearest to its exact value.
-/

namespace Closeness

namespace Binary

variable {format : Format}

/--
The number nearest to `coefficient * 10 ^ exponent`.  Values beyond any finite
number and far below the least one are recognised by their leading digit, so
no power larger than the format needs is computed.
-/
def ofDecimal (negative : Bool) (coefficient : Nat) (exponent : Int) : Binary format :=
  let leading := (decimalDigits coefficient).length + exponent
  if coefficient = 0 ∨ leading < -format.scale then
    zero negative
  else if Nat.pow 2 (format.exponentBits - 1) < leading then
    infinity negative
  else
    ofRatio negative (coefficient * Nat.pow 10 exponent.toNat * format.unitsOfOne)
      (Nat.pow 10 (-exponent).toNat)

end Binary

namespace Decimal

/-- A text without the underscores between digits; none if one stands elsewhere. -/
def dropSeparators? (afterDigit : Bool) : List Char → Option (List Char)
  | [] => some []
  | character :: rest =>
    if character == '_' then
      if afterDigit && rest.head?.any Char.isDigit then dropSeparators? false rest else none
    else
      (dropSeparators? character.isDigit rest).map (character :: ·)

/-- Whether a minus comes first, and the text after a sign. -/
def takeSign : List Char → Bool × List Char
  | '-' :: rest => (true, rest)
  | '+' :: rest => (false, rest)
  | text => (false, text)

/-- The digits at the start of a text, and the text after them. -/
def takeDigits (text : List Char) : List Char × List Char :=
  (text.takeWhile Char.isDigit, text.dropWhile Char.isDigit)

/-- A point with the digits after it, if a point comes first. -/
def takeFraction : List Char → List Char × List Char
  | '.' :: rest => takeDigits rest
  | text => ([], text)

/-- The exponent that makes up a whole text; no text is the exponent zero. -/
def readExponent? : List Char → Option Int
  | [] => some 0
  | mark :: rest =>
    let (negative, text) := takeSign rest
    let (digits, rest) := takeDigits text
    if mark.toLower == 'e' && !digits.isEmpty && rest.isEmpty then
      let magnitude : Int := Nat.ofDigitChars 10 digits 0
      some (if negative then -magnitude else magnitude)
    else
      none

/-- The number that a decimal without its sign denotes. -/
def readMagnitude? {format : Format} (negative : Bool) (text : List Char) :
    Option (Binary format) :=
  let (whole, rest) := takeDigits text
  let (fraction, rest) := takeFraction rest
  if whole.isEmpty && fraction.isEmpty then
    none
  else
    (readExponent? rest).map fun exponent =>
      .ofDecimal negative (Nat.ofDigitChars 10 (whole ++ fraction) 0)
        (exponent - fraction.length)

/-- The number that a literal without white space and underscores denotes. -/
def readLiteral? {format : Format} (text : List Char) : Option (Binary format) :=
  let (negative, rest) := takeSign text
  let name := String.ofList (rest.map Char.toLower)
  if name == "nan" then some (.nan negative)
  else if name == "inf" || name == "infinity" then some (.infinity negative)
  else readMagnitude? negative rest

/-- The number that a text denotes. -/
def read? {format : Format} (text : List Char) : Option (Binary format) :=
  (dropSeparators? false ((Text.trim text).map Text.asciiDigit)).bind readLiteral?

end Decimal

end Closeness
