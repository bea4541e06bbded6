import Closeness.Binary.Basic

/-!
# Bit patterns as signed integers

The pattern of a number, read as a two's complement integer of the same
width: the code itself, or the code less `2 ^ (bits - 1)` when the sign bit is
set.  `ofPattern?` is the inverse and refuses integers that do not fit.
-/

namespace Closeness.Binary

variable {format : Format}

/-- The bit pattern of a number as a signed integer. -/
def toPattern (number : Binary format) : Int :=
  if number.negative then number.code - (format.codeCount : Int) else number.code

/-- The number with a given signed bit pattern, if the integer fits the format. -/
def ofPattern? (pattern : Int) : Option (Binary format) :=
  if fits : 0 ≤ pattern ∧ pattern < format.codeCount then
    some ⟨false, pattern.toNat, by omega⟩
  else if fits : -(format.codeCount : Int) ≤ pattern ∧ pattern < 0 then
    some ⟨true, (pattern + format.codeCount).toNat, by omega⟩
  else
    none

/-- Reading back a pattern gives the number, bit for bit. -/
@[simp]
theorem ofPattern?_toPattern
    (number : Binary format) :
    ofPattern? number.toPattern = some number := by
  obtain ⟨negative, code, code_lt⟩ := number
  cases negative
  · have fits : (0 : Int) ≤ code ∧ (code : Int) < format.codeCount := by omega
    simp [toPattern, ofPattern?, fits]
  · have outside : ¬((0 : Int) ≤ code - format.codeCount ∧
        (code : Int) - format.codeCount < format.codeCount) := by omega
    have fits : -(format.codeCount : Int) ≤ code - format.codeCount ∧
        (code : Int) - format.codeCount < 0 := by omega
    simp only [toPattern, ofPattern?, if_true, dif_neg outside, dif_pos fits]
    congr 2
    omega

/-- A pattern that is read was the pattern of the number it gives. -/
theorem toPattern_of_ofPattern?
    {pattern : Int}
    {number : Binary format}
    (read : ofPattern? pattern = some number) :
    number.toPattern = pattern := by
  unfold ofPattern? at read
  split at read
  · cases read
    simp [toPattern]
    omega
  · split at read
    · cases read
      simp [toPattern]
      omega
    · cases read

/-- An integer is a pattern exactly when it fits the signed range of the format. -/
theorem ofPattern?_isSome_iff
    {pattern : Int} :
    (ofPattern? pattern : Option (Binary format)).isSome = true ↔
      -(format.codeCount : Int) ≤ pattern ∧ pattern < format.codeCount := by
  unfold ofPattern?
  split
  · simp
    omega
  · split
    · simp
      omega
    · simp
      omega

/-- The pattern of a positive number is its position. -/
theorem toPattern_of_position_pos
    {number : Binary format}
    (positive : 0 < number.position) :
    number.toPattern = number.position := by
  cases sign : number.negative <;> simp [position, sign] at positive
  · simp [toPattern, position, sign]
  · omega

/-- The pattern of the magnitude of a negative number is its position without the sign. -/
theorem toPattern_neg_of_position_neg
    {number : Binary format}
    (negative : number.position < 0) :
    (-number).toPattern = -number.position := by
  rw [← position_neg]
  apply toPattern_of_position_pos
  rw [position_neg]
  omega

end Closeness.Binary
