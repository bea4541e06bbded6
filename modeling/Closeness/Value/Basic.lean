import Closeness.Nest.Basic
import Closeness.Width

/-!
# Values

Callers hand in loosely typed values: numbers of several kinds, texts, truth
values, nothing, an empty dictionary, and lists of values.  Each value has a
kind, whose name appears in messages.
-/

namespace Closeness

/-- A value that is not a list. -/
inductive Scalar where
  | double (number : Double)
  | single (number : Single)
  | integer (value : Int)
  | text (content : String)
  | boolean (value : Bool)
  | nothing
  | dictionary
deriving DecidableEq, Inhabited

/-- A scalar or a list of values. -/
abbrev Value := Nest Scalar

/-- The kinds that messages tell apart. -/
inductive Kind where
  | double
  | single
  | integer
  | text
  | boolean
  | nothing
  | dictionary
  | list
deriving DecidableEq, Inhabited

namespace Kind

/-- The name of a kind in messages. -/
def name : Kind → String
  | double => "float"
  | single => "numpy.float32"
  | integer => "int"
  | text => "str"
  | boolean => "bool"
  | nothing => "NoneType"
  | dictionary => "dict"
  | list => "list"

/-- The kind in which values of a kind are computed with: singles turn into doubles. -/
def computed : Kind → Kind
  | single => double
  | kind => kind

end Kind

namespace Scalar

/-- The kind of a scalar. -/
def kind : Scalar → Kind
  | double _ => .double
  | single _ => .single
  | integer _ => .integer
  | text _ => .text
  | boolean _ => .boolean
  | nothing => .nothing
  | dictionary => .dictionary

end Scalar

namespace Value

/-- The kind of a value. -/
def kind : Value → Kind
  | .leaf scalar => scalar.kind
  | .node _ => .list

end Value

end Closeness
