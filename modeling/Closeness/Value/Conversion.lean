import Closeness.Decimal.Shortest
import Closeness.Fault

/-!
# Conversion of values to numbers and texts

Every scalar but nothing and the dictionary converts to a double: singles and
truth values exactly, integers to the nearest double, texts by reading them.
Integers and truth values are whole numbers as they are.  The same scalars that
convert to doubles can also be truncated to whole numbers: of doubles and
singles the fraction is dropped, and texts are read as whole numbers.

A value has two written forms: its display, and its literal form, in which
texts are quoted.  It has neither if an integer in it is too long to be written.
A width is given outright or by a value that names it.
-/

namespace Closeness

namespace Scalar

/-- The double nearest to an integer, if it is finite. -/
def integerToDouble (value : Int) : Except Fault Double :=
  let number : Double := .ofInt value
  if number.isInfinite then .error .integerTooLarge else .ok number

/-- The double that a scalar converts to. -/
def toDouble : Scalar → Except Fault Double
  | double number => .ok number
  | single number => .ok (number.convert .binary64)
  | integer value => integerToDouble value
  | text content =>
    match Decimal.read? content.toList with
    | some number => .ok number
    | none => .error (.unreadable content)
  | boolean value => .ok (.ofInt (if value then 1 else 0))
  | nothing => .error (.notNumeric .nothing)
  | dictionary => .error (.notNumeric .dictionary)

/-- The whole number that a scalar stands for. -/
def toInteger : Scalar → Except Fault Int
  | integer value => .ok value
  | boolean value => .ok (if value then 1 else 0)
  | scalar => .error (.notWhole scalar.kind)

/-- The whole part of a double. -/
def wholePart (number : Double) : Except Fault Int :=
  if number.isNaN then .error .wholePartOfNaN
  else if number.isInfinite then .error .wholePartOfInfinity
  else .ok (number.units.tdiv Format.binary64.unitsOfOne)

/-- The whole number that a scalar is truncated to. -/
def truncate : Scalar → Except Fault Int
  | double number => wholePart number
  | single number => wholePart (number.convert .binary64)
  | integer value => .ok value
  | text content =>
    match Decimal.readWhole content.toList with
    | .ok value => .ok value
    | .error .malformed => .error (.unreadableWhole content)
    | .error (.tooLong digits) => .error (.tooManyDigits digits)
  | boolean value => .ok (if value then 1 else 0)
  | nothing => .error (.noWholePart .nothing)
  | dictionary => .error (.noWholePart .dictionary)

/-- The text of an integer, unless it has too many digits. -/
def integerToText (value : Int) : Except Fault String :=
  match Decimal.writeWhole? value with
  | some written => .ok (.ofList written)
  | none => .error .unwritable

/-- Whole numbers that are not too long have a text. -/
theorem exists_integerToText
    {value : Int}
    (short : (decimalDigits value.natAbs).length ≤ Decimal.wholeDigitsLimit) :
    ∃ text, integerToText value = .ok text := by
  rw [integerToText, Decimal.writeWhole?_of_le short]
  exact ⟨_, rfl⟩

theorem integerToText_of_lt
    {value : Int}
    (long : Decimal.wholeDigitsLimit < (decimalDigits value.natAbs).length) :
    integerToText value = .error .unwritable := by
  rw [integerToText, Decimal.writeWhole?_of_lt long]

/-- The display of a scalar.  A single is displayed as the double equal to it. -/
def display : Scalar → Except Fault String
  | double number => .ok (.ofList number.shortest)
  | single number => .ok (.ofList (number.convert .binary64).shortest)
  | integer value => integerToText value
  | text content => .ok content
  | boolean value => .ok (if value then "True" else "False")
  | nothing => .ok "None"
  | dictionary => .ok "\x7b\x7d"

/-- The literal form of a scalar, as it appears inside a list. -/
def literal : Scalar → Except Fault String
  | single number => .ok ("np.float32(" ++ .ofList number.shortest ++ ")")
  | text content => .ok (.ofList (Text.quote content.toList))
  | scalar => scalar.display

end Scalar

namespace Value

/-- The double that a value converts to. -/
def toDouble : Value → Except Fault Double
  | .leaf scalar => scalar.toDouble
  | .node _ => .error (.notNumeric .list)

/-- The whole number that a value stands for. -/
def toInteger : Value → Except Fault Int
  | .leaf scalar => scalar.toInteger
  | .node _ => .error (.notWhole .list)

/-- The literal form of a value. -/
def literal : Value → Except Fault String
  | .leaf scalar => scalar.literal
  | .node branches => do
    let texts ← all branches
    return "[" ++ ", ".intercalate texts ++ "]"
where
  /-- The literal forms of several values. -/
  all : List Value → Except Fault (List String)
    | [] => .ok []
    | branch :: rest => do
      let text ← literal branch
      let texts ← all rest
      return text :: texts

/-- The display of a value. -/
def display : Value → Except Fault String
  | .leaf scalar => scalar.display
  | list => literal list

end Value

/-- A width given outright, or a value that is to name one. -/
inductive WidthChoice where
  | given (width : Width)
  | named (name : Value)

namespace WidthChoice

instance : Inhabited WidthChoice :=
  ⟨given .double⟩

/-- The width of a name, in letters of any case. -/
def widthOfName? (name : String) : Option Width :=
  let folded := String.ofList (name.toList.map Char.toLower)
  if folded = "float32" ∨ folded = "single" ∨ folded = "float" then some .single
  else if folded = "float64" ∨ folded = "double" then some .double
  else none

/-- The width that is meant. -/
def resolve : WidthChoice → Except Fault Width
  | given width => .ok width
  | named (.leaf (.text name)) =>
    match widthOfName? name with
    | some width => .ok width
    | none => .error (.unknownWidth name)
  | named name => do
    let text ← name.display
    throw (.unknownWidth text)

end WidthChoice

end Closeness
