import Closeness.Proofs.ScientificText
import Closeness.Proofs.SignificantDigits
import Closeness.Value.Operations

/-!
# Scientific text keeps every number

The scientific text of a width shows its round-trip digits.  Without the mark
at its end it is read as a double that rounds to the number the text was
written for: the signs of zero, the subnormals and the infinities included.
For the 32-bit width the text is rounded twice, to a double first.
-/

namespace Closeness

open Binary Decimal

namespace Binary

variable {format : Format}

theorem ofDecimal_zero
    (negative : Bool)
    (exponent : Int) :
    (ofDecimal negative 0 exponent : Binary format) = zero negative := by
  rw [ofDecimal, if_pos (Or.inl rfl)]

theorem scientific_of_isInfinite
    {number : Binary format}
    (infinite : number.isInfinite = true)
    (count : Nat) :
    number.scientific count = sign number.negative ++ ['i', 'n', 'f'] :=
  render_of_isInfinite _ infinite

theorem scientific_of_isFinite
    {number : Binary format}
    (finite : number.isFinite = true)
    (count : Nat) :
    number.scientific count =
      sign number.negative ++
        scientificForm ((number.significant count).digits count)
          (number.significant count).exponent := by
  rw [scientific, render, if_neg (by simp [isNaN_of_isFinite finite]),
    if_neg (by simp [isInfinite_of_isFinite finite])]

/-- The scientific text of a finite number is read as its significant digits. -/
theorem read?_scientific
    {target : Format}
    {number : Binary format}
    {count : Nat}
    (countPositive : 0 < count)
    (finite : number.isFinite = true) :
    (read? (number.scientific count) : Option (Binary target)) =
      some
        (ofDecimal number.negative (number.significant count).significand
          ((number.significant count).exponent - (count - 1))) := by
  have length : ((number.significant count).digits count).length = count := by
    have fits :
        (decimalDigits (number.significant count).significand).length ≤ count :=
      (Nat.length_toDigits_le_iff (by decide) countPositive).mpr
        (number.significand_lt countPositive)
    rw [Significant.digits, List.length_leftpad]
    omega
  have notEmpty : (number.significant count).digits count ≠ [] := by
    rw [← List.length_pos_iff, length]
    exact countPositive
  rw [scientific_of_isFinite finite,
    read?_scientificForm _ notEmpty (fun _ => isDigit_of_mem_leftpad), length,
    Significant.digits, ofDigitChars_leftpad]

end Binary

namespace Width

variable (width : Width)

theorem roundTripDigits_pos :
    0 < width.roundTripDigits := by
  cases width <;> decide

/-- Without its mark the scientific text of a width is read as a double that rounds alike. -/
theorem exists_read?_scientific
    {number : Double}
    (someNumber : number.isNaN = false) :
    ∃ read : Double,
      read? ((width.narrow number).scientific width.roundTripDigits) = some read ∧
        width.round read = width.round number := by
  have narrowNumber : (width.narrow number).isNaN = false := by
    rw [isNaN_narrow, someNumber]
  rcases isFinite_or_isInfinite narrowNumber with finite | infinite
  · refine ⟨_, read?_scientific width.roundTripDigits_pos finite, ?_⟩
    rcases Bool.eq_false_or_eq_true (width.narrow number).isZero with isZero | notZero
    · rw [significant, if_pos isZero, ofDecimal_zero, zero_of_isZero isZero,
        width.round_narrow someNumber]
    · have close :=
        abs_significant_sub_le width.roundTripDigits_pos notZero
      have positive := absValue_pos notZero
      rw [width.absValue_narrow finite] at close positive
      rw [width.negative_narrow]
      rw [width.isFinite_narrow] at finite
      exact width.round_ofDecimal_of_close finite positive close
  · refine ⟨width.narrow number, ?_, width.round_narrow someNumber⟩
    rw [scientific_of_isInfinite infinite, read?_inf, infinity_of_isInfinite infinite]

end Width

namespace Value

/--
Scientific text of a width, without the mark at its end, is narrowed to the
number it was written for.
-/
theorem narrow_scientific
    (width : Width)
    {number : Double}
    (someNumber : number.isNaN = false) :
    ∃ body : List Char,
      scientific (.leaf (.double number)) width = .ok (.ofList (body ++ width.mark)) ∧
        narrow (.leaf (.text (.ofList body))) width = .ok (width.narrow number) := by
  obtain ⟨read, reading, rounded⟩ := width.exists_read?_scientific someNumber
  refine ⟨(width.narrow number).scientific width.roundTripDigits, rfl, ?_⟩
  rw [narrow, toDouble, Scalar.toDouble, String.toList_ofList, reading]
  simp only [Except.map, Width.narrow, rounded]

theorem narrow_scientific_of_least :
    ∃ body : List Char,
      scientific (.leaf (.double Width.single.least)) .single =
          .ok (.ofList (body ++ Width.single.mark)) ∧
        narrow (.leaf (.text (.ofList body))) .single =
          .ok (Width.single.narrow Width.single.least) :=
  narrow_scientific .single (by decide +kernel)

example :
    Width.single.scientific Width.single.least = "1.40129846e-45f".toList := by
  decide +kernel

end Value

end Closeness
