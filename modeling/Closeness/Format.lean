/-!
# Binary interchange formats

A format splits the bits of a number into a sign, an exponent field and a
fraction field.  Exponent and fraction, read together as one natural number,
form the *code* of a magnitude: codes below `hidden` are zero and the
subnormals, codes below `infinityCode` are finite, `infinityCode` itself is
infinity, and every greater code is NaN.

Every finite magnitude is a whole multiple of the least positive one, whose
value is `2 ^ (-scale)`.  The function `unitsOfCode` gives that multiple, so
exact arithmetic on finite numbers is arithmetic on integers.
-/

namespace Closeness

/-- A layout with an exponent field and a fraction field of given widths. -/
structure Format where
  /-- Width of the exponent field. -/
  exponentBits : Nat
  /-- Width of the fraction field. -/
  fractionBits : Nat
  /-- The exponent field tells zero, normal numbers and infinity apart. -/
  two_le_exponentBits : 2 ≤ exponentBits := by decide
  /-- The fraction field has room for the bit that quietens a NaN. -/
  fractionBits_pos : 0 < fractionBits := by decide
deriving DecidableEq

namespace Format

/-- The 32-bit layout. -/
def binary32 : Format where
  exponentBits := 8
  fractionBits := 23

/-- The 64-bit layout. -/
def binary64 : Format where
  exponentBits := 11
  fractionBits := 52

/-- Number of bits of a pattern, sign included. -/
def bits (format : Format) : Nat :=
  1 + format.exponentBits + format.fractionBits

/-- Weight of the implicit leading bit; also the number of codes in a binade. -/
def hidden (format : Format) : Nat :=
  Nat.pow 2 format.fractionBits

/-- Number of codes: all patterns without the sign. -/
def codeCount (format : Format) : Nat :=
  Nat.pow 2 (format.exponentBits + format.fractionBits)

/-- Code of infinity: exponent field all ones, fraction field zero. -/
def infinityCode (format : Format) : Nat :=
  (Nat.pow 2 format.exponentBits - 1) * format.hidden

/-- Code of the largest finite magnitude. -/
def largestCode (format : Format) : Nat :=
  format.infinityCode - 1

/-- The fraction bit that marks a NaN as quiet. -/
def quietBit (format : Format) : Nat :=
  Nat.pow 2 (format.fractionBits - 1)

/-- The least positive magnitude is `2 ^ (-scale)`. -/
def scale (format : Format) : Nat :=
  Nat.pow 2 (format.exponentBits - 1) - 2 + format.fractionBits

/-- The number one, as a multiple of the least positive magnitude. -/
def unitsOfOne (format : Format) : Nat :=
  Nat.pow 2 format.scale

/--
The magnitude of a finite code, as a multiple of the least positive one.
Below `hidden` the code is the multiple; above, the fraction field with its
implicit bit is shifted by one less than the exponent field.
-/
def unitsOfCode (format : Format) (code : Nat) : Nat :=
  if code < format.hidden then
    code
  else
    (format.hidden + code % format.hidden) * Nat.pow 2 (code / format.hidden - 1)

theorem hidden_pos
    (format : Format) :
    0 < format.hidden :=
  Nat.two_pow_pos _

theorem quietBit_pos
    (format : Format) :
    0 < format.quietBit :=
  Nat.two_pow_pos _

theorem quietBit_lt_hidden
    (format : Format) :
    format.quietBit < format.hidden :=
  Nat.pow_lt_pow_right (by decide) (Nat.sub_lt format.fractionBits_pos (by decide))

/-- The quiet bit is the leading bit of the fraction field. -/
theorem quietBit_add_quietBit
    (format : Format) :
    format.quietBit + format.quietBit = format.hidden := by
  obtain ⟨lower, width⟩ := Nat.exists_eq_add_of_lt format.fractionBits_pos
  rw [Nat.zero_add] at width
  rw [quietBit, hidden, width, Nat.add_sub_cancel, ← Nat.mul_two]
  rfl

theorem unitsOfOne_pos
    (format : Format) :
    0 < format.unitsOfOne :=
  Nat.two_pow_pos _

theorem codeCount_eq
    (format : Format) :
    format.codeCount = Nat.pow 2 format.exponentBits * format.hidden := by
  simp [codeCount, hidden, Nat.pow_add]

/-- Infinity and the NaN codes above it fill the last binade. -/
theorem infinityCode_add_hidden
    (format : Format) :
    format.infinityCode + format.hidden = format.codeCount := by
  have positive : 0 < Nat.pow 2 format.exponentBits := Nat.two_pow_pos _
  rw [codeCount_eq, infinityCode, ← Nat.succ_mul, Nat.succ_eq_add_one,
    Nat.sub_add_cancel positive]

theorem infinityCode_lt_codeCount
    (format : Format) :
    format.infinityCode < format.codeCount := by
  have := format.infinityCode_add_hidden
  have := format.hidden_pos
  omega

theorem hidden_le_infinityCode
    (format : Format) :
    format.hidden ≤ format.infinityCode := by
  have four_le : Nat.pow 2 2 ≤ Nat.pow 2 format.exponentBits :=
    Nat.pow_le_pow_right (by decide) format.two_le_exponentBits
  exact Nat.le_mul_of_pos_left _ (Nat.sub_pos_of_lt (Nat.lt_of_lt_of_le (by decide) four_le))

theorem one_lt_hidden
    (format : Format) :
    1 < format.hidden :=
  Nat.one_lt_two_pow (Nat.pos_iff_ne_zero.mp format.fractionBits_pos)

theorem infinityCode_pos
    (format : Format) :
    0 < format.infinityCode :=
  Nat.lt_of_lt_of_le format.hidden_pos format.hidden_le_infinityCode

theorem largestCode_lt_codeCount
    (format : Format) :
    format.largestCode < format.codeCount :=
  Nat.lt_of_le_of_lt (Nat.sub_le _ _) format.infinityCode_lt_codeCount

@[simp]
theorem unitsOfCode_zero
    (format : Format) :
    format.unitsOfCode 0 = 0 := by
  simp [unitsOfCode, format.hidden_pos]

theorem unitsOfCode_of_lt
    (format : Format)
    {code : Nat}
    (subnormal : code < format.hidden) :
    format.unitsOfCode code = code :=
  if_pos subnormal

end Format

end Closeness
