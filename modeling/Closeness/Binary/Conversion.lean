import Closeness.Binary.Rounding

/-!
# Conversion between formats

A finite number is re-expressed in units of the target format and rounded to
the nearest number there, so converting to a wider format is exact.  A NaN
keeps its sign and the leading bits of its payload and becomes quiet.
-/

namespace Closeness.Binary

/--
The leading bits of a fraction field, moved from one width to another.  Bits
that do not fit are dropped at the low end.
-/
def alignFraction (source target : Format) (fraction : Nat) : Nat :=
  if source.fractionBits ≤ target.fractionBits then
    fraction * Nat.pow 2 (target.fractionBits - source.fractionBits)
  else
    fraction / Nat.pow 2 (source.fractionBits - target.fractionBits)

/-- A fraction field with the quiet bit set, whatever it was. -/
def quieten (format : Format) (fraction : Nat) : Nat :=
  format.quietBit + fraction % format.quietBit

theorem quieten_lt_hidden
    (format : Format)
    (fraction : Nat) :
    quieten format fraction < format.hidden := by
  have low := Nat.mod_lt fraction format.quietBit_pos
  have double := format.quietBit_add_quietBit
  simp only [quieten]
  omega

/-- The quiet NaN of the target format that keeps sign and leading payload bits. -/
def convertNaN {source : Format} (target : Format) (number : Binary source) : Binary target :=
  ⟨number.negative,
    target.infinityCode +
      quieten target (alignFraction source target (number.code % source.hidden)), by
    have := target.infinityCode_add_hidden
    have := quieten_lt_hidden target
      (alignFraction source target (number.code % source.hidden))
    omega⟩

/-- The number of the target format nearest to a number of the source format. -/
def convert {source : Format} (target : Format) (number : Binary source) : Binary target :=
  if number.isNaN then
    convertNaN target number
  else if number.isInfinite then
    infinity number.negative
  else
    ofRatio number.negative (number.magnitude * target.unitsOfOne) source.unitsOfOne

/-- Conversion keeps the sign bit, of zeros and NaN too. -/
@[simp]
theorem negative_convert
    {source : Format}
    (target : Format)
    (number : Binary source) :
    (number.convert target).negative = number.negative := by
  unfold convert
  split
  · rfl
  · split <;> rfl

theorem isNaN_convertNaN
    {source : Format}
    (target : Format)
    (number : Binary source) :
    (convertNaN target number).isNaN = true := by
  have positive := target.quietBit_pos
  simp only [isNaN_iff, convertNaN, quieten]
  omega

/-- Conversion neither makes nor loses a NaN. -/
@[simp]
theorem isNaN_convert
    {source : Format}
    (target : Format)
    (number : Binary source) :
    (number.convert target).isNaN = number.isNaN := by
  unfold convert
  split
  · next noNumber => rw [isNaN_convertNaN, noNumber]
  · next someNumber =>
    rw [Bool.not_eq_true] at someNumber
    split
    · rw [someNumber]
      exact decide_eq_false (Nat.lt_irrefl _)
    · rw [isNaN_ofRatio, someNumber]

end Closeness.Binary
