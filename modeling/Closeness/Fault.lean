import Closeness.Decimal.Scientific
import Closeness.Decimal.Style
import Closeness.Decimal.Whole
import Closeness.Text.Quoted
import Closeness.Value.Basic

/-!
# Faults

A fault says why an operation has no result, by cause.  `Fault.message` holds
the wording of all of them.
-/

namespace Closeness

/-- Why the parameters of a policy are refused. -/
inductive Rejection where
  /-- The margin is negative or NaN. -/
  | negativeMargin (margin : Double)
  /-- The relative tolerance is negative or NaN. -/
  | negativeEpsilon
  /-- The relative tolerance reaches one. -/
  | epsilonTooLarge
  /-- The count of steps is negative or does not fit 64 bits. -/
  | ulpsOutOfRange (count : String)
  /-- The count of steps does not fit the width. -/
  | ulpsTooLarge
deriving DecidableEq

/-- How two operands can be put in order. -/
inductive Comparison where
  | less
  | atMost
  | atLeast
deriving DecidableEq

/-- The forms of policy. -/
inductive Form where
  | absolute
  | relative
  | ulps
deriving DecidableEq

/-- Why an operation has no result. -/
inductive Fault where
  /-- A number is needed, and values of this kind are none. -/
  | notNumeric (kind : Kind)
  /-- The text does not denote a number. -/
  | unreadable (text : String)
  /-- The integer is beyond the largest double. -/
  | integerTooLarge
  /-- A whole number is needed, and values of this kind are none. -/
  | notWhole (kind : Kind)
  /-- A number with a whole part is needed, and values of this kind have none. -/
  | noWholePart (kind : Kind)
  /-- The text does not denote a whole number. -/
  | unreadableWhole (text : String)
  /-- The text of a whole number has too many digits. -/
  | tooManyDigits (digits : Nat)
  /-- The whole number has too many digits for a text. -/
  | unwritable
  /-- NaN has no whole part. -/
  | wholePartOfNaN
  /-- An infinity has no whole part. -/
  | wholePartOfInfinity
  /-- The pattern does not fit its width. -/
  | patternOutOfRange (width : Width) (pattern : Int)
  /-- One number is needed, and a list is given. -/
  | notSingle
  /-- The value names no width. -/
  | unknownWidth (name : String)
  /-- The count of steps is negative. -/
  | negativeCount (count : String)
  /-- Values of these kinds have no order. -/
  | incomparable (comparison : Comparison) (left right : Kind)
  /-- Values of these kinds have no sum. -/
  | notAddable (left right : Kind)
  /-- Nothing but its own kind can follow a text or a list. -/
  | notJoinable (left right : Kind)
  /-- A single and a text of a length have no sum. -/
  | singleAndText (length : Nat)
  /-- A single and a text have no order. -/
  | singleBesideText (comparison : Comparison)
  /-- A comparison with a list has no answers or several. -/
  | notOneAnswer (answers : Nat)
  /-- The style of fixed notation is refused. -/
  | style (text : String) (reason : Decimal.StyleFault)
  /-- The parameters of a policy are refused. -/
  | rejected (reason : Rejection)
  /-- The lists agree on the leading lengths only. -/
  | irregular (shape : List Nat)
  /-- The lists are nested deeper than the levels that are entered. -/
  | tooDeep (levels : Nat)
  /-- The lists have more levels than elements can be visited on. -/
  | tooManyLevels (limit levels : Nat)
  /-- The fields of a policy cannot be changed. -/
  | fieldAssigned (field : String)
  /-- The fields of a policy cannot be removed. -/
  | fieldDeleted (field : String)
  /-- Policies of this form do not answer the question. -/
  | unanswerable (form : Form) (question : String)
deriving DecidableEq

namespace Rejection

/-- The wording of a rejection. -/
def message : Rejection → String
  | negativeMargin margin =>
    "Invalid margin: " ++ .ofList margin.general ++ ". Margin has to be non-negative."
  | negativeEpsilon => "Relative comparison with epsilon <  0 does not make sense."
  | epsilonTooLarge => "Relative comparison with epsilon >= 1 does not make sense."
  | ulpsOutOfRange count =>
    "ULP count must fit an unsigned 64-bit integer, got " ++ count ++ "."
  | ulpsTooLarge => "Provided ULP is impossibly large for a float comparison."

end Rejection

namespace Comparison

/-- The sign of a comparison. -/
def sign : Comparison → String
  | less => "<"
  | atMost => "<="
  | atLeast => ">="

end Comparison

namespace Form

/-- The name of a form of policy. -/
def name : Form → String
  | absolute => "AbsoluteMargin"
  | relative => "RelativeMargin"
  | ulps => "UlpTolerance"

end Form

namespace Fault

/-- A shape between parentheses; a single length keeps its comma. -/
def shapeText : List Nat → String
  | [length] => "(" ++ toString length ++ ",)"
  | shape => "(" ++ ", ".intercalate (shape.map toString) ++ ")"

/-- The wording of a pattern that does not fit; one that fits the other width is shown. -/
def patternMessage (width : Width) (pattern : Int) : String :=
  if width == .single && (Width.double.ofPattern? pattern).isSome then
    "Python integer " ++ toString pattern ++ " out of bounds for int32"
  else
    "Python int too large to convert to C long"

/-- The wording of an exceeded limit of digits, with what is said about the whole number. -/
def digitsMessage (remark : String) : String :=
  "Exceeds the limit (" ++ toString Decimal.wholeDigitsLimit ++
    " digits) for integer string conversion" ++ remark ++
    "; use sys.set_int_max_str_digits() to increase the limit"

/-- How the messages about nested lists start. -/
def sequenceMessage : String :=
  "setting an array element with a sequence. The requested array "

/-- The wording of a refused style; one that is malformed is shown. -/
def styleMessage (text : String) : Decimal.StyleFault → String
  | .missing => "Format specifier missing precision"
  | .tooMany => "precision too big"
  | .tooLong => "Too many decimal digits in format string"
  | .conflicting => "Cannot specify both ',' and '_'."
  | .malformed => "Invalid format specifier '." ++ text ++ "f' for object of type 'float'"

/-- The name of a comparison between arrays. -/
def arrayComparison : Comparison → String
  | .less => "less"
  | .atMost => "less_equal"
  | .atLeast => "greater_equal"

/-- How the messages about a single and a text start. -/
def loopMessage (operation : String) : String :=
  "ufunc '" ++ operation ++ "' did not contain a loop with signature matching types "

/-- A text between quotes, as messages show the texts of callers. -/
def quoted (text : String) : String :=
  .ofList (Text.quote text.toList)

/-- The most characters of a quoted text in the message about whole numbers. -/
def quotedLimit : Nat :=
  200

/-- The wording of a fault. -/
def message : Fault → String
  | notNumeric kind =>
    "float() argument must be a string or a real number, not '" ++ kind.name ++ "'"
  | unreadable text =>
    "could not convert string to float: " ++ quoted text
  | integerTooLarge => "int too large to convert to float"
  | notWhole kind => "'" ++ kind.name ++ "' object cannot be interpreted as an integer"
  | noWholePart kind =>
    "int() argument must be a string, a bytes-like object or a real number, not '" ++
      kind.name ++ "'"
  | unreadableWhole text =>
    "invalid literal for int() with base 10: " ++
      .ofList ((Text.quote text.toList).take quotedLimit)
  | tooManyDigits digits => digitsMessage (": value has " ++ toString digits ++ " digits")
  | unwritable => digitsMessage ""
  | wholePartOfNaN => "cannot convert float NaN to integer"
  | wholePartOfInfinity => "cannot convert float infinity to integer"
  | patternOutOfRange width pattern => patternMessage width pattern
  | notSingle => "only 0-dimensional arrays can be converted to Python scalars"
  | unknownWidth name => "Unsupported float width: " ++ name
  | negativeCount count => "Step count must be non-negative, got " ++ count
  | incomparable comparison left right =>
    "'" ++ comparison.sign ++ "' not supported between instances of '" ++ left.name ++
      "' and '" ++ right.name ++ "'"
  | notAddable left right =>
    "unsupported operand type(s) for +: '" ++ left.name ++ "' and '" ++ right.name ++ "'"
  | notJoinable left right =>
    "can only concatenate " ++ left.name ++ " (not \"" ++ right.name ++ "\") to " ++ left.name
  | singleAndText length =>
    loopMessage "add" ++ "(dtype('float32'), dtype('<U" ++ toString (max 1 length) ++
      "')) -> None"
  | singleBesideText comparison =>
    loopMessage (arrayComparison comparison) ++
      "(<class 'numpy.dtypes.Float32DType'>, <class 'numpy.dtypes.StrDType'>) -> None"
  | notOneAnswer 0 =>
    "The truth value of an empty array is ambiguous. Use \x60array.size > 0\x60 to check " ++
      "that an array is not empty."
  | notOneAnswer _ =>
    "The truth value of an array with more than one element is ambiguous. " ++
      "Use a.any() or a.all()"
  | style text reason => styleMessage text reason
  | rejected reason => reason.message
  | irregular shape =>
    sequenceMessage ++ "has an inhomogeneous shape after " ++ toString shape.length ++
      " dimensions. The detected shape was " ++ shapeText shape ++ " + inhomogeneous part."
  | tooDeep levels =>
    sequenceMessage ++ "would exceed the maximum number of dimension of " ++
      toString levels ++ "."
  | tooManyLevels limit levels =>
    "this function only supports up to " ++ toString limit ++
      " dimensions but the array has " ++ toString levels ++ "."
  | fieldAssigned field => "cannot assign to field " ++ quoted field
  | fieldDeleted field => "cannot delete field " ++ quoted field
  | unanswerable form question =>
    "'" ++ form.name ++ "' object has no attribute '" ++ question ++ "'"

end Fault

end Closeness
