import Closeness.Format

/-!
# Numbers of a binary format

A number is a sign and a code, so structural equality is equality of bit
patterns: it tells `-0` from `+0` and one NaN from another.  The numeric
comparisons `equals`, `atMost` and `below` are separate functions.  They read
the *position* of a number, its code carrying its sign, at which both zeros
are `0`; a NaN compares false with everything.
-/

namespace Closeness

/-- A number of a format: its sign bit and the code of its magnitude. -/
structure Binary (format : Format) where
  /-- The sign bit. -/
  negative : Bool
  /-- Exponent and fraction fields as one number. -/
  code : Nat
  /-- The code fits the two fields. -/
  code_lt : code < format.codeCount
deriving DecidableEq

/-- A number of the 32-bit layout. -/
abbrev Single := Binary .binary32

/-- A number of the 64-bit layout. -/
abbrev Double := Binary .binary64

namespace Binary

variable {format : Format}

@[ext]
theorem ext
    {left right : Binary format}
    (negative : left.negative = right.negative)
    (code : left.code = right.code) :
    left = right := by
  cases left; cases right; simp_all

/-- Zero of either sign. -/
def zero (negative : Bool) : Binary format :=
  ⟨negative, 0, Nat.two_pow_pos _⟩

/-- Infinity of either sign. -/
def infinity (negative : Bool) : Binary format :=
  ⟨negative, format.infinityCode, format.infinityCode_lt_codeCount⟩

/-- The largest finite number of either sign. -/
def largest (negative : Bool) : Binary format :=
  ⟨negative, format.largestCode, format.largestCode_lt_codeCount⟩

/-- The least positive number, or its negative. -/
def least (negative : Bool) : Binary format :=
  ⟨negative, 1, Nat.lt_of_lt_of_le format.one_lt_hidden
    (Nat.le_trans format.hidden_le_infinityCode (Nat.le_of_lt format.infinityCode_lt_codeCount))⟩

/-- The quiet NaN with an otherwise empty fraction field. -/
def nan (negative : Bool) : Binary format :=
  ⟨negative, format.infinityCode + format.quietBit, by
    have := format.infinityCode_add_hidden
    have := format.quietBit_lt_hidden
    omega⟩

instance : Inhabited (Binary format) :=
  ⟨zero false⟩

/-- Not a number. -/
def isNaN (number : Binary format) : Bool :=
  format.infinityCode < number.code

/-- An infinity of either sign. -/
def isInfinite (number : Binary format) : Bool :=
  number.code == format.infinityCode

/-- Neither an infinity nor NaN. -/
def isFinite (number : Binary format) : Bool :=
  number.code < format.infinityCode

/-- A zero of either sign. -/
def isZero (number : Binary format) : Bool :=
  number.code == 0

/-- The number with its sign bit cleared. -/
def abs (number : Binary format) : Binary format :=
  { number with negative := false }

/-- The number with its sign bit flipped. -/
def neg (number : Binary format) : Binary format :=
  { number with negative := !number.negative }

instance : Neg (Binary format) :=
  ⟨neg⟩

/-- Magnitude of a finite number, as a multiple of the least positive one. -/
def magnitude (number : Binary format) : Nat :=
  format.unitsOfCode number.code

/-- Value of a finite number, as a multiple of the least positive one. -/
def units (number : Binary format) : Int :=
  if number.negative then -(number.magnitude : Int) else number.magnitude

/--
Place of a number among the numbers of its format, counted from zero: its
code with its sign.  Both zeros have position `0`.
-/
def position (number : Binary format) : Int :=
  if number.negative then -(number.code : Int) else number.code

/-- Numeric equality: the zeros are equal, and a NaN equals nothing. -/
def equals (left right : Binary format) : Bool :=
  !left.isNaN && !right.isNaN && left.position == right.position

/-- Numeric `≤`, false on NaN. -/
def atMost (left right : Binary format) : Bool :=
  !left.isNaN && !right.isNaN && left.position ≤ right.position

/-- Numeric `<`, false on NaN. -/
def below (left right : Binary format) : Bool :=
  !left.isNaN && !right.isNaN && left.position < right.position

/-- The greater of two numbers; the first one unless the second is above it. -/
def greater (left right : Binary format) : Binary format :=
  if left.below right then right else left

@[simp]
theorem position_zero
    (negative : Bool) :
    (zero negative : Binary format).position = 0 := by
  cases negative <;> simp [position, zero]

@[simp]
theorem position_neg
    (number : Binary format) :
    (-number).position = -number.position := by
  show (neg number).position = _
  cases sign : number.negative <;> simp [position, neg, sign]

@[simp]
theorem natAbs_position
    (number : Binary format) :
    number.position.natAbs = number.code := by
  cases sign : number.negative <;> simp [position, sign]

theorem code_eq_of_position_eq
    {left right : Binary format}
    (same : left.position = right.position) :
    left.code = right.code := by
  rw [← natAbs_position, same, natAbs_position]

/-- Away from the zeros a position is that of one number. -/
theorem eq_of_position_eq
    {left right : Binary format}
    (same : left.position = right.position)
    (away : left.position ≠ 0) :
    left = right := by
  have codes := code_eq_of_position_eq same
  apply Binary.ext _ codes
  rw [position, position, codes] at same
  rw [position, codes] at away
  cases leftSign : left.negative <;> cases rightSign : right.negative <;>
    simp [leftSign, rightSign] at same away ⊢ <;> omega

theorem isFinite_iff
    {number : Binary format} :
    number.isFinite = true ↔ number.code < format.infinityCode := by
  simp [isFinite]

theorem isNaN_iff
    {number : Binary format} :
    number.isNaN = true ↔ format.infinityCode < number.code := by
  simp [isNaN]

theorem isInfinite_iff
    {number : Binary format} :
    number.isInfinite = true ↔ number.code = format.infinityCode := by
  simp [isInfinite]

theorem isFinite_eq
    (number : Binary format) :
    number.isFinite = (!number.isNaN && !number.isInfinite) := by
  rw [Bool.eq_iff_iff]
  simp [isFinite, isNaN, isInfinite]
  omega

theorem isInfinite_eq
    (number : Binary format) :
    number.isInfinite = (!number.isNaN && !number.isFinite) := by
  rw [Bool.eq_iff_iff]
  simp [isFinite, isNaN, isInfinite]
  omega

theorem isNaN_of_isFinite
    {number : Binary format}
    (finite : number.isFinite = true) :
    number.isNaN = false := by
  rw [isFinite_eq, Bool.and_eq_true, Bool.not_eq_true'] at finite
  exact finite.1

theorem isInfinite_of_isFinite
    {number : Binary format}
    (finite : number.isFinite = true) :
    number.isInfinite = false := by
  rw [isFinite_eq, Bool.and_eq_true, Bool.not_eq_true', Bool.not_eq_true'] at finite
  exact finite.2

theorem isNaN_of_isInfinite
    {number : Binary format}
    (infinite : number.isInfinite = true) :
    number.isNaN = false := by
  rw [isInfinite_eq, Bool.and_eq_true, Bool.not_eq_true'] at infinite
  exact infinite.1

theorem isFinite_of_isInfinite
    {number : Binary format}
    (infinite : number.isInfinite = true) :
    number.isFinite = false := by
  rw [isFinite_eq, infinite, Bool.not_true, Bool.and_false]

/-- A number is finite or infinite. -/
theorem isFinite_or_isInfinite
    {number : Binary format}
    (someNumber : number.isNaN = false) :
    number.isFinite = true ∨ number.isInfinite = true := by
  rw [isInfinite_eq, someNumber]
  cases number.isFinite <;> simp

theorem infinity_of_isInfinite
    {number : Binary format}
    (infinite : number.isInfinite = true) :
    infinity number.negative = number :=
  Binary.ext rfl (isInfinite_iff.mp infinite).symm

theorem zero_of_isZero
    {number : Binary format}
    (isZero : number.isZero = true) :
    zero number.negative = number :=
  Binary.ext rfl (beq_iff_eq.mp isZero).symm

theorem isInfinite_infinity
    (negative : Bool) :
    (infinity negative : Binary format).isInfinite = true :=
  isInfinite_iff.mpr rfl

theorem position_infinity
    (negative : Bool) :
    (infinity negative : Binary format).position =
      if negative then -(format.infinityCode : Int) else format.infinityCode :=
  rfl

theorem position_of_isInfinite
    {number : Binary format}
    (infinite : number.isInfinite = true) :
    number.position =
      if number.negative then -(format.infinityCode : Int) else format.infinityCode := by
  rw [← position_infinity, infinity_of_isInfinite infinite]

theorem isZero_iff
    {number : Binary format} :
    number.isZero = true ↔ number.position = 0 := by
  rw [← Int.natAbs_eq_zero, natAbs_position, isZero, beq_iff_eq]

theorem isNaN_zero
    (negative : Bool) :
    (zero negative : Binary format).isNaN = false :=
  decide_eq_false (Nat.not_lt_zero _)

theorem equals_iff
    {left right : Binary format}
    (leftNumber : left.isNaN = false)
    (rightNumber : right.isNaN = false) :
    left.equals right = true ↔ left.position = right.position := by
  simp [equals, leftNumber, rightNumber]

theorem atMost_iff
    {left right : Binary format}
    (leftNumber : left.isNaN = false)
    (rightNumber : right.isNaN = false) :
    left.atMost right = true ↔ left.position ≤ right.position := by
  simp [atMost, leftNumber, rightNumber]

theorem below_iff
    {left right : Binary format}
    (leftNumber : left.isNaN = false)
    (rightNumber : right.isNaN = false) :
    left.below right = true ↔ left.position < right.position := by
  simp [below, leftNumber, rightNumber]

/-- Below zero are the numbers of negative position. -/
theorem below_zero_iff
    {number : Binary format}
    (someNumber : number.isNaN = false) :
    number.below (zero false) = true ↔ number.position < 0 := by
  rw [below_iff someNumber (isNaN_zero false), position_zero]

end Binary

end Closeness
