import Mathlib.Data.List.TakeWhile
import Mathlib.Data.Nat.Factorization.Basic
import Closeness.Decimal.Whole
import Closeness.Proofs.FixedNotation

/-!
# Trimmed text without places

Without places after the point a number is written as the nearest whole number
and without a point.  Trimming takes zeros away from the end of the whole text,
and now nothing stops it before the digits of the whole number.  A text of all
digits of a whole number is read back as that number.

So what is left is the whole number without the zeros at its end, and nothing
but the sign if the whole number is zero.  Such a text is read as the nearest
whole number exactly if that is not a multiple of ten.
-/

namespace Closeness

namespace Decimal

open Text

/-! ## Digits of whole numbers -/

/-- A factor of ten adds a zero at the end. -/
theorem decimalDigits_mul_pow_ten
    {value : Nat}
    (positive : 0 < value)
    (zeros : Nat) :
    decimalDigits (value * 10 ^ zeros) = decimalDigits value ++ List.replicate zeros '0' := by
  induction zeros with
  | zero => simp
  | succ zeros ih =>
    have shifted : 0 < value * 10 ^ zeros :=
      Nat.mul_pos positive (Nat.pow_pos (by decide))
    have appended :=
      @Nat.toDigits_append_toDigits 10 (value * 10 ^ zeros) 0 (by decide) shifted (by decide)
    have zero : Nat.toDigits 10 0 = ['0'] := by decide
    -- The zero at the end is the remainder that the product leaves when divided by ten.
    rw [List.replicate_succ', ← List.append_assoc, ← ih, decimalDigits, decimalDigits, ← zero,
      appended]
    congr 1
    ring

theorem exists_decimalDigits_eq_append
    (value : Nat) :
    ∃ front, decimalDigits value = front ++ [(value % 10).digitChar] := by
  rcases Nat.lt_or_ge value 10 with short | long
  · refine ⟨[], ?_⟩
    rw [Nat.mod_eq_of_lt short]
    exact Nat.toDigits_of_lt_base short
  · exact ⟨_, Nat.toDigits_of_base_le (by decide) long⟩

theorem dropTrailing_append_zeros
    (front : List Char)
    {last : Char}
    (notZero : last ≠ '0')
    (count : Nat) :
    dropTrailing (· == '0') (front ++ last :: List.replicate count '0') = front ++ [last] := by
  have nothingLeft : dropTrailing (· == '0') (List.replicate count '0') = [] := by
    simp [dropTrailing]
  calc
    dropTrailing (· == '0') (front ++ last :: List.replicate count '0') =
        front ++ last :: dropTrailing (· == '0') (List.replicate count '0') :=
      @dropTrailing_append_cons (· == '0') last (beq_eq_false_iff_ne.mpr notZero) front _
    _ = front ++ [last] := by
      rw [nothingLeft]

/-- Trimming stops at the last digit that is not zero. -/
theorem trimFixed_decimalDigits
    (negative : Bool)
    {kept : Nat}
    (significant : ¬ 10 ∣ kept)
    (zeros : Nat) :
    trimFixed (sign negative ++ decimalDigits (kept * 10 ^ zeros)) =
      sign negative ++ decimalDigits kept := by
  have positive : 0 < kept := by
    rw [Nat.pos_iff_ne_zero]
    rintro rfl
    exact significant (Nat.dvd_zero 10)
  have notZero : (kept % 10).digitChar ≠ '0' := by
    rw [Ne, Nat.digitChar_eq_zero, ← Nat.dvd_iff_mod_eq_zero]
    exact significant
  have notPoint : (kept % 10).digitChar ≠ '.' := by
    intro point
    have digit : (kept % 10).digitChar.isDigit = true := by
      rw [Nat.isDigit_digitChar]
      exact decide_eq_true (Nat.mod_lt _ (by decide))
    rw [point] at digit
    cases digit
  obtain ⟨front, digits⟩ := exists_decimalDigits_eq_append kept
  rw [trimFixed, decimalDigits_mul_pow_ten positive, digits, List.append_assoc,
    List.singleton_append, ← List.append_assoc, dropTrailing_append_zeros _ notZero]
  simp [notPoint]

/-- Of zero only the sign is left. -/
theorem trimFixed_zero
    (negative : Bool) :
    trimFixed (sign negative ++ decimalDigits 0) = sign negative := by
  cases negative <;> decide

theorem fixedForm_zero
    (units : Nat) :
    fixedForm 0 units = decimalDigits units := by
  rw [fixedForm, if_pos rfl, Nat.pow_eq, Nat.pow_zero, Nat.div_one]

/-! ## Reading whole numbers -/

section Reading

variable
    (negative : Bool)
    {digits : List Char}
    (notEmpty : digits ≠ [])
    (allDigits : ∀ character ∈ digits, character.isDigit = true)

include allDigits

theorem isPlain_sign_append :
    ∀ character ∈ sign negative ++ digits, IsPlain character := by
  intro character member
  rcases List.mem_append.mp member with inSign | inDigits
  · exact isPlain_sign negative character inSign
  · exact isPlain_of_isDigit (allDigits character inDigits)

include notEmpty

theorem takeSign_sign_append_digits :
    takeSign (sign negative ++ digits) = (negative, digits) := by
  obtain ⟨first, rest, rfl⟩ := List.exists_cons_of_ne_nil notEmpty
  exact
    takeSign_sign_append negative
      (takeSign_of_isDigit (allDigits first List.mem_cons_self) rest)

/-- Digits that are not too many are read as the number that they denote. -/
theorem readWhole_sign_append
    (short : digits.length ≤ wholeDigitsLimit) :
    readWhole (sign negative ++ digits) =
      .ok
        (if negative then -(Nat.ofDigitChars 10 digits 0 : Int)
          else Nat.ofDigitChars 10 digits 0) := by
  have plain := isPlain_sign_append negative allDigits
  have belongs : ∀ character ∈ digits, isDigitOrSeparator character = true := by
    intro character member
    rw [isDigitOrSeparator, allDigits character member, Bool.true_or]
  have noSeparator : dropSeparators? false digits = some digits :=
    dropSeparators?_of_isPlain false fun character member =>
      isPlain_of_isDigit (allDigits character member)
  have signTaken := takeSign_sign_append_digits negative notEmpty allDigits
  rw [readWhole, dropWhile_isBlank_of_isPlain plain, map_asciiDigit_of_isPlain plain, signTaken]
  dsimp only
  rw [List.takeWhile_eq_self_iff.mpr belongs, List.dropWhile_eq_nil_iff.mpr belongs, noSeparator]
  cases digits with
  | nil => exact absurd rfl notEmpty
  | cons first rest => exact if_neg short.not_gt

end Reading

/-- The digits of a whole number, with a sign, are read as the number. -/
theorem readWhole_sign_append_decimalDigits
    (negative : Bool)
    {value : Nat}
    (short : (decimalDigits value).length ≤ wholeDigitsLimit) :
    readWhole (sign negative ++ decimalDigits value) =
      .ok (if negative then -(value : Int) else value) := by
  have digits : ∀ character ∈ decimalDigits value, character.isDigit = true :=
    fun _ member => Nat.isDigit_of_mem_toDigits (by decide) (by decide) member
  have read := readWhole_sign_append negative Nat.toDigits_ne_nil digits short
  rwa [Nat.ofDigitChars_ten_toDigits] at read

/-- A whole number that has a text is read back from it. -/
theorem readWhole_of_writeWhole?
    {value : Int}
    {text : List Char}
    (written : writeWhole? value = some text) :
    readWhole text = .ok value := by
  rcases le_or_gt (decimalDigits value.natAbs).length wholeDigitsLimit with short | long
  · rw [writeWhole?_of_le short, Option.some.injEq] at written
    rw [← written, readWhole_sign_append_decimalDigits _ short]
    congr 1
    rcases lt_or_ge value 0 with negative | nonneg
    · rw [if_pos (decide_eq_true negative)]
      omega
    · rw [if_neg (by simpa using nonneg)]
      omega
  · rw [writeWhole?_of_lt long] at written
    cases written

/-- A sign alone is no number. -/
theorem readWhole_sign
    (negative : Bool) :
    readWhole (sign negative) = .error .malformed := by
  cases negative <;> rfl

end Decimal

/-- The text of an integer stands for the integer. -/
theorem Scalar.truncate_of_integerToText
    {value : Int}
    {content : String}
    (shown : integerToText value = .ok content) :
    (text content).truncate = .ok value := by
  rw [integerToText] at shown
  cases written : Decimal.writeWhole? value with
  | none =>
    rw [written] at shown
    cases shown
  | some digits =>
    rw [written] at shown
    cases shown
    rw [truncate, String.toList_ofList, Decimal.readWhole_of_writeWhole? written]

open Binary Decimal

/-! ## Nearest whole numbers -/

namespace Binary

variable {format : Format}

/-- The whole number nearest to a number, a half going to the even one. -/
def nearestWhole (number : Binary format) : Int :=
  if number.negative then -(number.roundAt 0 : Int) else number.roundAt 0

theorem natAbs_nearestWhole
    (number : Binary format) :
    number.nearestWhole.natAbs = number.roundAt 0 := by
  rw [nearestWhole]
  split
  · rw [Int.natAbs_neg, Int.natAbs_natCast]
  · exact Int.natAbs_natCast _

theorem roundedAt_nearestWhole
    (number : Binary format) :
    RoundedAt number.value 0 number.nearestWhole := by
  have rounded := number.roundedAt_roundAt 0
  rw [pow_zero, div_one] at rounded
  rw [value_eq, nearestWhole]
  split
  · have opposite := rounded.neg
    rwa [Int.cast_neg, Int.cast_natCast]
  · rwa [Int.cast_natCast]

theorem trimmed_zero
    {number : Binary format}
    (finite : number.isFinite = true) :
    number.trimmed 0 = trimFixed (sign number.negative ++ decimalDigits (number.roundAt 0)) := by
  rw [trimmed, if_pos finite, fixed, render, isNaN_of_isFinite finite,
    isInfinite_of_isFinite finite, Nat.zero_min, fixedForm_zero]
  rfl

/-- Doubles have fewer digits before the point than are read. -/
theorem roundAt_zero_lt
    {number : Double}
    (finite : number.isFinite = true) :
    number.roundAt 0 < 10 ^ wholeDigitsLimit := by
  have inRange : number.code ≤ Format.binary64.largestCode :=
    Nat.le_sub_one_of_lt (isFinite_iff.mp finite)
  have magnitude : number.magnitude ≤ Format.binary64.unitsOfCode Format.binary64.largestCode :=
    Format.binary64.unitsOfCode_strictMono.monotone inRange
  have short :
      Format.binary64.unitsOfCode Format.binary64.largestCode + 1 < 10 ^ wholeDigitsLimit := by
    decide +kernel
  have numerator : number.placeNumerator 0 = number.magnitude :=
    Nat.mul_one _
  calc
    number.roundAt 0 ≤ number.placeNumerator 0 / number.placeDenominator 0 + 1 :=
      roundHalfEven_le _ _
    _ ≤ number.placeNumerator 0 + 1 :=
      Nat.add_le_add_right (Nat.div_le_self _ _) 1
    _ = number.magnitude + 1 := by
      rw [numerator]
    _ ≤ Format.binary64.unitsOfCode Format.binary64.largestCode + 1 :=
      Nat.add_le_add_right magnitude 1
    _ < 10 ^ wholeDigitsLimit :=
      short

/-- If the nearest whole number is zero, nothing but the sign is written. -/
theorem trimmed_zero_of_nearestWhole_eq_zero
    {number : Binary format}
    (finite : number.isFinite = true)
    (nothing : number.nearestWhole = 0) :
    number.trimmed 0 = sign number.negative := by
  have units : number.roundAt 0 = 0 := by
    rw [← natAbs_nearestWhole, nothing, Int.natAbs_zero]
  rw [trimmed_zero finite, units, trimFixed_zero]

/-- Any other nearest whole number is written without the zeros at its end. -/
theorem trimmed_zero_of_nearestWhole_ne_zero
    {number : Double}
    (finite : number.isFinite = true)
    (something : number.nearestWhole ≠ 0) :
    ∃ (kept : ℤ) (zeros : ℕ),
      number.nearestWhole = kept * 10 ^ zeros ∧
        ¬ 10 ∣ kept ∧
        number.trimmed 0 = sign number.negative ++ decimalDigits kept.natAbs ∧
        readWhole (number.trimmed 0) = .ok kept := by
  have units : number.roundAt 0 ≠ 0 := by
    rwa [← natAbs_nearestWhole, Int.natAbs_ne_zero]
  obtain ⟨zeros, kept, significant, factored⟩ :=
    Nat.exists_eq_pow_mul_and_not_dvd units 10 (by decide)
  rw [Nat.mul_comm] at factored
  have text : number.trimmed 0 = sign number.negative ++ decimalDigits kept := by
    rw [trimmed_zero finite, factored, trimFixed_decimalDigits _ significant]
  have bounded : kept < 10 ^ wholeDigitsLimit :=
    calc
      kept ≤ kept * 10 ^ zeros := Nat.le_mul_of_pos_right _ (Nat.pow_pos (by decide))
      _ = number.roundAt 0 := factored.symm
      _ < 10 ^ wholeDigitsLimit := roundAt_zero_lt finite
  have short : (decimalDigits kept).length ≤ wholeDigitsLimit :=
    (Nat.length_toDigits_le_iff (by decide) (by decide)).mpr bounded
  have read := readWhole_sign_append_decimalDigits number.negative short
  rw [nearestWhole, text, read, factored]
  cases number.negative with
  | false =>
    exact ⟨kept, zeros, by push_cast; rfl, by exact_mod_cast significant, rfl, rfl⟩
  | true =>
    refine ⟨-kept, zeros, by push_cast; exact (neg_mul ..).symm, ?_, ?_, rfl⟩
    · rw [Int.dvd_neg]
      exact_mod_cast significant
    · rw [Int.natAbs_neg, Int.natAbs_natCast]

/-- The text is read as the nearest whole number if that has no zeros at its end, and only then. -/
theorem readWhole_trimmed_zero_iff
    {number : Double}
    (finite : number.isFinite = true) :
    readWhole (number.trimmed 0) = .ok number.nearestWhole ↔ ¬ 10 ∣ number.nearestWhole := by
  by_cases nothing : number.nearestWhole = 0
  · rw [trimmed_zero_of_nearestWhole_eq_zero finite nothing, readWhole_sign, nothing]
    simp
  · obtain ⟨kept, zeros, factored, significant, -, read⟩ :=
      trimmed_zero_of_nearestWhole_ne_zero finite nothing
    rw [read, Except.ok.injEq]
    constructor
    · intro same
      rwa [← same]
    · intro notMultiple
      cases zeros with
      | zero => rw [factored, pow_zero, mul_one]
      | succ zeros =>
        rw [factored, pow_succ, ← mul_assoc] at notMultiple
        exact absurd (Dvd.intro_left _ rfl) notMultiple

end Binary

namespace Value

/--
Without places the trimmed text of a finite number is the nearest whole number
without the zeros at its end, and just the sign if that is zero.  So the text
is read as the nearest whole number exactly if that is not a multiple of ten.
-/
theorem trimmed_without_places
    {number : Double}
    (finite : number.isFinite = true) :
    ∃ (nearest : ℤ) (text : List Char),
      RoundedAt number.value 0 nearest ∧
        trimmed (.leaf (.double number)) (.leaf (.integer 0)) = .ok (.ofList text) ∧
        (nearest = 0 → text = sign number.negative) ∧
        (nearest ≠ 0 →
          ∃ (kept : ℤ) (zeros : ℕ),
            nearest = kept * 10 ^ zeros ∧
              ¬ 10 ∣ kept ∧
              text = sign number.negative ++ decimalDigits kept.natAbs ∧
              readWhole text = .ok kept) ∧
        (readWhole text = .ok nearest ↔ ¬ 10 ∣ nearest) :=
  ⟨number.nearestWhole, number.trimmed 0, number.roundedAt_nearestWhole,
    trimmed_integer finite (by decide), trimmed_zero_of_nearestWhole_eq_zero finite,
    trimmed_zero_of_nearestWhole_ne_zero finite, readWhole_trimmed_zero_iff finite⟩

/-- The nearest whole number of a negative half goes to the even one and loses its zero. -/
theorem trimmed_without_places_of_half :
    (ofRatio true (2501 * Format.binary64.unitsOfOne) 2 : Double).isFinite = true ∧
      (ofRatio true (2501 * Format.binary64.unitsOfOne) 2 : Double).value = -2501 / 2 ∧
      ∃ (nearest : ℤ) (text : List Char),
        RoundedAt (-2501 / 2) 0 nearest ∧
          trimmed (.leaf (.double (ofRatio true (2501 * Format.binary64.unitsOfOne) 2)))
              (.leaf (.integer 0)) =
            .ok (.ofList text) ∧
          text = ['-', '1', '2', '5'] ∧
          (readWhole text = .ok nearest ↔ ¬ 10 ∣ nearest) := by
  have finite :
      (ofRatio true (2501 * Format.binary64.unitsOfOne) 2 : Double).isFinite = true := by
    decide +kernel
  have exact :
      (ofRatio true (2501 * Format.binary64.unitsOfOne) 2 : Double).value = -2501 / 2 := by
    decide +kernel
  have written :
      trimmed (.leaf (.double (ofRatio true (2501 * Format.binary64.unitsOfOne) 2)))
          (.leaf (.integer 0)) =
        .ok (.ofList ['-', '1', '2', '5']) := by
    decide +kernel
  obtain ⟨nearest, text, rounded, same, -, -, reads⟩ := trimmed_without_places finite
  rw [exact] at rounded
  have characters : text = ['-', '1', '2', '5'] :=
    String.ofList_inj.mp (Except.ok.inj (same.symm.trans written))
  exact ⟨finite, exact, nearest, text, rounded, same, characters, reads⟩

/-- A hundred is its own nearest whole number, and its text is read as one, which is not. -/
theorem trimmed_without_places_of_hundred :
    (ofInt 100 : Double).isFinite = true ∧
      RoundedAt (ofInt 100 : Double).value 0 100 ∧
      trimmed (.leaf (.double (ofInt 100))) (.leaf (.integer 0)) = .ok (.ofList ['1']) ∧
      readWhole ['1'] = .ok 1 ∧
      ¬ RoundedAt (ofInt 100 : Double).value 0 1 := by
  have nearest : (ofInt 100 : Double).nearestWhole = 100 := by
    decide +kernel
  have rounded : RoundedAt (ofInt 100 : Double).value 0 100 := by
    have atNearest := roundedAt_nearestWhole (ofInt 100 : Double)
    rwa [nearest] at atNearest
  refine ⟨by decide +kernel, rounded, by decide +kernel, by decide +kernel, ?_⟩
  intro alsoRounded
  exact absurd (rounded.unique alsoRounded) (by norm_num)

end Value

end Closeness
