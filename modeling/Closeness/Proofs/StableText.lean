import Closeness.Policy.Description
import Closeness.Proofs.FixedNotation

/-!
# Trimmed text is stable

Places after the point do not tell small numbers apart, so the trimmed text of
a number may be read as another one.  It is the text of that other number too.

Reading rounds the numeral to the nearest number.  The number that the text was
written for is one of those that reading could have chosen, so the chosen one is
no farther from the numeral.  Hence it is at most half a unit of the last place
away, and half a unit only if the first number was, and then the count of units
is even.  This is what it means to be rounded to the numeral.

The argument compares two distances and needs no bound on the gaps between
numbers.  Such a bound is needed at the end of the range only: rounding to
places adds less than half of the gap above the largest number, so what is read
is finite.
-/

namespace Closeness

open Binary Decimal Text

namespace Decimal

/-- Distances are the same in units of the last place and outright. -/
theorem abs_mul_pow_sub
    (exact : ℚ)
    (places : Nat)
    (units : ℤ) :
    |exact * 10 ^ places - units| = |exact - units / 10 ^ places| * 10 ^ places := by
  have powerPositive : (0 : ℚ) < 10 ^ places := by positivity
  calc
    |exact * 10 ^ places - units| = |(exact - units / 10 ^ places) * 10 ^ places| := by
      rw [sub_mul, div_mul_cancel₀ _ powerPositive.ne']
    _ = |exact - units / 10 ^ places| * 10 ^ places := by
      rw [abs_mul, abs_of_pos powerPositive]

namespace RoundedAt

variable
    {exact rounded : ℚ}
    {places : Nat}

/-- A number that is no farther from the rounded one is rounded to it as well. -/
theorem of_closer
    {other : ℚ}
    (atPlaces : RoundedAt exact places rounded)
    (closer : |other - rounded| ≤ |exact - rounded|) :
    RoundedAt other places rounded := by
  obtain ⟨units, rfl, near, even⟩ := atPlaces
  have noFarther : |other * 10 ^ places - units| ≤ |exact * 10 ^ places - units| := by
    rw [abs_mul_pow_sub, abs_mul_pow_sub]
    exact mul_le_mul_of_nonneg_right closer (by positivity)
  refine ⟨units, rfl, noFarther.trans near, fun tie => ?_⟩
  rw [tie] at noFarther
  exact even (le_antisymm near noFarther)

/-- Rounding to places moves a number by at most a half. -/
theorem abs_sub_le
    (atPlaces : RoundedAt exact places rounded) :
    |exact - rounded| ≤ 1 / 2 := by
  obtain ⟨units, rfl, near, -⟩ := atPlaces
  have power : (1 : ℚ) ≤ 10 ^ places := one_le_pow₀ (by norm_num)
  rw [abs_mul_pow_sub] at near
  exact (le_mul_of_one_le_right (abs_nonneg _) power).trans near

end RoundedAt

/-! ## Reading numerals -/

theorem rounds_ofDecimal
    {format : Format}
    (negative : Bool)
    (coefficient : Nat)
    (exponent : Int) :
    Rounds (if negative then -valueOf coefficient exponent else valueOf coefficient exponent)
      (ofDecimal negative coefficient exponent : Binary format) := by
  have exact :
      ratioValue format negative
          (coefficient * Nat.pow 10 exponent.toNat * format.unitsOfOne)
          (Nat.pow 10 (-exponent).toNat) =
        if negative then -valueOf coefficient exponent else valueOf coefficient exponent := by
    rw [ratioValue, ratio_eq, mul_div_cancel_right₀ _ format.unitsOfOne_pos_rat.ne']
  rw [← exact, ofDecimal_eq_ofRatio]
  exact rounds_ofRatio _ _ (Nat.pow_pos (by decide))

namespace Numeral

variable (numeral : Numeral)

theorem isPlain_text :
    ∀ character ∈ numeral.text, IsPlain character := by
  intro character member
  rw [text, List.mem_append, List.mem_append, List.mem_cons] at member
  rcases member with (inSign | inWhole) | rfl | inFraction
  · exact isPlain_sign _ character inSign
  · exact isPlain_of_isDigit
      (numeral.isDigit_of_mem character (List.mem_append_left _ inWhole))
  · decide
  · exact isPlain_of_isDigit
      (numeral.isDigit_of_mem character (List.mem_append_right _ inFraction))

/-- The digits around the point are found again. -/
theorem readMagnitude?_digits
    {format : Format}
    (negative : Bool) :
    (readMagnitude? negative (numeral.whole ++ '.' :: numeral.fraction) :
        Option (Binary format)) =
      some
        (.ofDecimal negative (Nat.ofDigitChars 10 (numeral.whole ++ numeral.fraction) 0)
          (-(numeral.fraction.length : Int))) := by
  have fraction :
      takeFraction ('.' :: numeral.fraction) = (numeral.fraction, []) :=
    takeDigits_of_isDigit fun character member =>
      numeral.isDigit_of_mem character (List.mem_append_right _ member)
  have notEmpty : numeral.whole.isEmpty = false :=
    List.isEmpty_eq_false_iff.mpr numeral.whole_ne_nil
  rw [readMagnitude?, numeral.takeDigits_whole_append]
  simp only [fraction, notEmpty, Bool.false_and, readExponent?, Option.map_some, zero_sub]
  rfl

/-- A numeral is read as the rational that it denotes, rounded to the nearest number. -/
theorem exists_read?_text
    (format : Format) :
    ∃ number : Binary format,
      read? numeral.text = some number ∧
        number.negative = numeral.negative ∧ Rounds numeral.value number := by
  obtain ⟨first, rest, whole⟩ := List.exists_cons_of_ne_nil numeral.whole_ne_nil
  have digit : first.isDigit = true :=
    numeral.isDigit_of_mem first (by simp [whole])
  have value :
      numeral.value =
        let magnitude :=
          valueOf (Nat.ofDigitChars 10 (numeral.whole ++ numeral.fraction) 0)
            (-(numeral.fraction.length : Int))
        if numeral.negative then -magnitude else magnitude := by
    rw [Numeral.value, digitsValue, valueOf, zpow_neg, zpow_natCast, div_eq_mul_inv]
  refine ⟨_, ?_, negative_ofDecimal .., value ▸ rounds_ofDecimal ..⟩
  rw [read?_of_isPlain numeral.isPlain_text, ← numeral.readMagnitude?_digits, text,
    List.append_assoc, whole]
  exact readLiteral?_sign_append numeral.negative digit _

end Numeral

end Decimal

/-! ## Texts of numbers -/

namespace Binary

variable
    {format : Format}
    {number : Binary format}

theorem trimmed_of_isNaN
    (noNumber : number.isNaN = true)
    (places : Nat) :
    number.trimmed places = ['n', 'a', 'n'] := by
  have notFinite : ¬ number.isFinite = true := by
    intro finite
    rw [isNaN_of_isFinite finite] at noNumber
    cases noNumber
  rw [trimmed, if_neg notFinite, fixed, render_of_isNaN _ noNumber]

theorem trimmed_of_isInfinite
    (infinite : number.isInfinite = true)
    (places : Nat) :
    number.trimmed places = sign number.negative ++ ['i', 'n', 'f'] := by
  rw [trimmed, if_neg (by simp [isFinite_of_isInfinite infinite]), fixed,
    render_of_isInfinite _ infinite]

/-- The largest finite magnitude is far below the overflow threshold. -/
theorem absValue_add_le_overflowThreshold
    {room : Nat}
    (fits : Nat.pow 2 (format.exponentBits - 1) = room + 2 + format.fractionBits)
    (finite : number.isFinite = true) :
    number.absValue + 2 ^ room ≤ format.overflowThreshold := by
  have largest := unitsOfCode_le_largest finite
  have gap : (format.spacing format.largestCode : ℚ) = 2 * 2 ^ room * format.unitsOfOne := by
    exact_mod_cast format.spacing_largestCode fits
  rw [Format.overflowThreshold, le_div_iff₀ format.unitsOfOne_pos_rat, add_mul,
    absValue_mul_unitsOfOne, Format.midpoint, Format.unitsOfCode_succ]
  push_cast
  linarith

/-- The numeral of a finite number with a count of places. -/
def numeral (number : Binary format) (places : Nat) : Numeral :=
  .ofUnits (min places format.scale)
    (number.roundAt (-((min places format.scale : Nat) : Int))) number.negative

section Numerals

variable
    {places : Nat}
    (positive : 0 < min places format.scale)

include positive

theorem roundedAt_value_numeral
    (number : Binary format) :
    RoundedAt number.value places (number.numeral places).value := by
  rw [numeral, value_ofUnits _ _ positive, value_eq]
  split
  · exact (number.roundedAt_roundAt_min places).neg
  · exact number.roundedAt_roundAt_min places

/-- Numbers of one sign have one numeral if their numerals denote the same. -/
theorem numeral_eq_of_value_eq
    {other : Binary format}
    (sameSign : other.negative = number.negative)
    (sameValue : (other.numeral places).value = (number.numeral places).value) :
    other.numeral places = number.numeral places := by
  have units :
      other.roundAt (-((min places format.scale : Nat) : Int)) =
        number.roundAt (-((min places format.scale : Nat) : Int)) := by
    rw [numeral, numeral, value_ofUnits _ _ positive, value_ofUnits _ _ positive,
      sameSign] at sameValue
    split at sameValue
    · rw [neg_inj, div_left_inj' (by positivity)] at sameValue
      exact_mod_cast sameValue
    · rw [div_left_inj' (by positivity)] at sameValue
      exact_mod_cast sameValue
  rw [numeral, numeral, units, sameSign]

variable
    {read : Binary format}
    (rounded : Rounds (number.numeral places).value read)

include rounded

/-- What is read for the numeral of a finite number is finite. -/
theorem isFinite_of_rounds_numeral
    {room : Nat}
    (fits : Nat.pow 2 (format.exponentBits - 1) = room + 2 + format.fractionBits)
    (finite : number.isFinite = true) :
    read.isFinite = true := by
  rcases isFinite_or_isInfinite rounded.isNaN_eq with readFinite | infinite
  · exact readFinite
  · exfalso
    have large := rounded.isInfinite_iff.mp infinite
    have small := absValue_add_le_overflowThreshold fits finite
    have near := (roundedAt_value_numeral positive number).abs_sub_le
    have growth := abs_sub_abs_le_abs_sub (number.numeral places).value number.value
    have roomy : (1 : ℚ) ≤ 2 ^ room := one_le_pow₀ (by norm_num)
    rw [abs_sub_comm, abs_value] at growth
    linarith

/-- What is read for the numeral of a finite number has the same numeral. -/
theorem numeral_eq_of_rounds_numeral
    (finite : number.isFinite = true)
    (readFinite : read.isFinite = true)
    (sameSign : read.negative = number.negative) :
    read.numeral places = number.numeral places := by
  have closer := rounded.nearest number readFinite finite
  rw [abs_sub_comm, abs_sub_comm _ number.value] at closer
  have readRounded := (roundedAt_value_numeral positive number).of_closer closer
  exact
    numeral_eq_of_value_eq positive sameSign
      ((roundedAt_value_numeral positive read).unique readRounded)

end Numerals

/-- The trimmed text of a number is read as a number of the same trimmed text. -/
theorem exists_read?_trimmed
    {places room : Nat}
    (fits : Nat.pow 2 (format.exponentBits - 1) = room + 2 + format.fractionBits)
    (positive : 0 < min places format.scale)
    (number : Binary format) :
    ∃ read : Binary format,
      read? (number.trimmed places) = some read ∧
        read.trimmed places = number.trimmed places := by
  rcases Bool.eq_false_or_eq_true number.isNaN with noNumber | someNumber
  · rw [trimmed_of_isNaN noNumber]
    exact ⟨nan false, rfl, trimmed_of_isNaN (isNaN_nan false) places⟩
  · rcases isFinite_or_isInfinite someNumber with finite | infinite
    · obtain ⟨read, reading, sameSign, rounded⟩ :=
        (number.numeral places).exists_read?_text format
      have readFinite := isFinite_of_rounds_numeral positive rounded fits finite
      have sameNumeral := numeral_eq_of_rounds_numeral positive rounded finite readFinite sameSign
      have text : number.trimmed places = (number.numeral places).text :=
        trimmed_eq_text finite positive
      have readText : read.trimmed places = (read.numeral places).text :=
        trimmed_eq_text readFinite positive
      exact ⟨read, text ▸ reading, by rw [readText, text, sameNumeral]⟩
    · rw [trimmed_of_isInfinite infinite]
      exact
        ⟨infinity number.negative, read?_inf _,
          trimmed_of_isInfinite (isInfinite_infinity _) places⟩

end Binary

namespace Value

theorem trimmed_eq_ok
    {value : Value}
    {number : Double}
    {places : Nat}
    (converts : value.toDouble = .ok number)
    (bounded : places < 2 ^ 31) :
    trimmed value (.leaf (.integer places)) = .ok (.ofList (number.trimmed places)) := by
  rw [trimmed, toStyle_places bounded, converts]
  simp only [bind, Except.bind]
  split
  · next noNumber =>
    rw [trimmed_of_isNaN noNumber, trimmed_of_isNaN noNumber]
    rfl
  · rfl

/--
The text of a double with the places of descriptions is not changed by reading
it and writing it again: not that of NaN, an infinity or a zero either.
-/
theorem trimmed_stable
    (number : Double) :
    ∃ text : String,
      trimmed (.leaf (.double number)) (.leaf (.integer descriptionPlaces)) = .ok text ∧
        trimmed (.leaf (.text text)) (.leaf (.integer descriptionPlaces)) = .ok text := by
  have bounded : descriptionPlaces < 2 ^ 31 := by decide
  have shown : 0 < min descriptionPlaces Format.binary64.scale := by decide
  obtain ⟨read, reading, sameText⟩ :=
    @exists_read?_trimmed Format.binary64 descriptionPlaces 970 rfl shown number
  have converts :
      toDouble (.leaf (.text (.ofList (number.trimmed descriptionPlaces)))) = .ok read := by
    rw [toDouble, Scalar.toDouble, String.toList_ofList, reading]
  refine ⟨_, trimmed_eq_ok rfl bounded, ?_⟩
  rw [trimmed_eq_ok converts bounded, sameText]

/-- The number next to a hundredth has the text of a hundredth. -/
example :
    (ofRatio false Format.binary64.unitsOfOne 100 : Double).nextUp.trimmed descriptionPlaces =
        "0.01".toList ∧
      (read? "0.01".toList : Option Double) =
        some (ofRatio false Format.binary64.unitsOfOne 100) := by
  decide +kernel

end Value

end Closeness
