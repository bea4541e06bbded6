import Closeness.Decimal.Fixed
import Closeness.Decimal.Literal

/-!
# Styles of fixed notation

A style says how a number is written in fixed notation.  It is either a count
of places after the point, or a field: a number padded with points to a width,
with choices about its sign, its point and the separation of its thousands.

A style has a written form.  A count of places is written in digits of any
script.  A field starts with a mark for its alignment, and the other choices
follow in a fixed order, each of which may be missing.
-/

namespace Closeness

namespace Decimal

/-- Why a style is refused. -/
inductive StyleFault where
  /-- A count of places is needed and there is none. -/
  | missing
  /-- The count of places does not fit 31 bits. -/
  | tooMany
  /-- A count does not fit 63 bits. -/
  | tooLong
  /-- Two separators of thousands are given. -/
  | conflicting
  /-- Something follows that belongs to no choice. -/
  | malformed
deriving DecidableEq

/-- Where a number stands in a field that is wider. -/
inductive Alignment where
  | left
  | right
  | center
  /-- The sign on the left and the digits on the right. -/
  | apart
deriving DecidableEq

/-- A number in a field of a width. -/
structure Field where
  /-- Where the number stands. -/
  alignment : Alignment
  /-- What stands before numbers that are not negative. -/
  positiveSign : List Char
  /-- Negative numbers that are rounded to zero keep their sign. -/
  keepNegativeZero : Bool
  /-- A point is written even if no places follow. -/
  keepPoint : Bool
  /-- The least count of characters. -/
  width : Nat
  /-- What separates the thousands. -/
  separator : Option Char
  /-- The count of places after the point. -/
  places : Nat
deriving DecidableEq

/-- How a number is written in fixed notation. -/
inductive Style where
  /-- With a count of places after the point. -/
  | places (count : Nat)
  /-- In a field. -/
  | field (field : Field)
deriving DecidableEq

/-- Counts of places are below this one. -/
def placesLimit : Nat :=
  Nat.pow 2 31

/-- Counts from this one on are not read. -/
def countLimit : Nat :=
  Nat.pow 2 63

/-- The places of a field that does not give them. -/
def defaultPlaces : Nat :=
  6

namespace Alignment

/-- The alignment that a mark stands for. -/
def ofMark? (mark : Char) : Option Alignment :=
  if mark == '<' then some left
  else if mark == '>' then some right
  else if mark == '^' then some center
  else if mark == '=' then some apart
  else none

end Alignment

namespace Style

/-- The digits at the start of a text as a count, if there are any, and the rest. -/
def takeCount (text : List Char) : Except StyleFault (Option Nat × List Char) :=
  let (digits, rest) := takeDigits text
  let count := Nat.ofDigitChars 10 digits 0
  if digits.isEmpty then .ok (none, rest)
  else if countLimit ≤ count then .error .tooLong
  else .ok (some count, rest)

/-- A count of places that makes up a whole text. -/
def readPlaces (text : List Char) : Except StyleFault Nat := do
  let (count, rest) ← takeCount text
  match count with
  | none => throw .missing
  | some count =>
    if !rest.isEmpty then throw .malformed
    else if placesLimit ≤ count then throw .tooMany
    else return count

/-- What a field puts before numbers that are not negative, and the rest. -/
def takePositiveSign : List Char → List Char × List Char
  | '+' :: rest => (['+'], rest)
  | ' ' :: rest => ([' '], rest)
  | '-' :: rest => ([], rest)
  | text => ([], text)

/-- Whether a text starts with a mark, and the rest. -/
def takeMark (mark : Char) : List Char → Bool × List Char
  | first :: rest => if first == mark then (true, rest) else (false, first :: rest)
  | [] => (false, [])

/-- The separator of thousands, and the rest. -/
def takeSeparator : List Char → Except StyleFault (Option Char × List Char)
  | ',' :: '_' :: _ => .error .conflicting
  | '_' :: ',' :: _ => .error .conflicting
  | ',' :: rest => .ok (some ',', rest)
  | '_' :: rest => .ok (some '_', rest)
  | text => .ok (none, text)

/-- The places of a field: the whole rest of its text. -/
def readFieldPlaces : List Char → Except StyleFault Nat
  | [] => .ok defaultPlaces
  | '.' :: rest => readPlaces rest
  | _ => .error .malformed

/-- A field from the text after the mark of its alignment. -/
def readField (alignment : Alignment) (text : List Char) : Except StyleFault Field := do
  let (positiveSign, text) := takePositiveSign text
  let (dropNegativeZero, text) := takeMark 'z' text
  let (keepPoint, text) := takeMark '#' text
  let (width, text) ← takeCount text
  let (separator, text) ← takeSeparator text
  let places ← readFieldPlaces text
  return {
    alignment, positiveSign, keepNegativeZero := !dropNegativeZero, keepPoint,
    width := width.getD 0, separator, places }

/-- The style that a text denotes. -/
def read (text : List Char) : Except StyleFault Style :=
  let text := text.map Text.asciiDigit
  match text.head?.bind Alignment.ofMark? with
  | some alignment => (readField alignment text.tail).map field
  | none => (readPlaces text).map places

/-- The style with a count of places. -/
def ofCount (count : Int) : Except StyleFault Style :=
  if count < 0 then .error .missing
  else if count < placesLimit then .ok (places count.toNat)
  else if count < countLimit then .error .tooMany
  else .error .tooLong

end Style

/-- Digits with a separator before every three of them, counted from the right. -/
def separate (separator : Char) : List Char → List Char
  | [] => []
  | digit :: rest =>
    if rest.length % 3 = 0 ∧ rest ≠ [] then digit :: separator :: separate separator rest
    else digit :: separate separator rest

namespace Field

/-- A whole number of units of `10 ^ (-places)` as a field writes it, without sign and padding. -/
def body (field : Field) (units : Nat) : List Char :=
  let text := fixedForm field.places units ++
    if field.keepPoint ∧ field.places = 0 then ['.'] else []
  match field.separator with
  | none => text
  | some separator =>
    separate separator (text.takeWhile Char.isDigit) ++ text.dropWhile Char.isDigit

/-- A sign and a text padded to the width of a field. -/
def pad (field : Field) (sign text : List Char) : List Char :=
  let gap := field.width - (sign.length + text.length)
  let points (count : Nat) : List Char := List.replicate count '.'
  match field.alignment with
  | .left => sign ++ text ++ points gap
  | .right => points gap ++ sign ++ text
  | .center => points (gap / 2) ++ sign ++ text ++ points (gap - gap / 2)
  | .apart => sign ++ points gap ++ text

end Field

end Decimal

namespace Binary

variable {format : Format}

/-- A number that is not NaN in a field. -/
def inField (number : Binary format) (field : Decimal.Field) : List Char :=
  let units := number.roundAt (-(field.places : Int))
  let negative :=
    number.negative && (field.keepNegativeZero || number.isInfinite || units != 0)
  field.pad (if negative then ['-'] else field.positiveSign)
    (if number.isInfinite then ['i', 'n', 'f'] else field.body units)

/-- A number that is not NaN in a style, trimmed. -/
def trimmedIn (number : Binary format) : Decimal.Style → List Char
  | .places count => number.trimmed count
  | .field field =>
    if number.isFinite then Decimal.trimFixed (number.inField field) else number.inField field

end Binary

end Closeness
