import Closeness.Proofs.Midpoints
import Closeness.Proofs.NormalNumbers
import Closeness.Value.Operations

/-!
# Narrowed doubles

`RoundsToSingle number narrowed` says that a double is another one, rounded to
singles, without saying how it is computed.  The sign is kept.  From the
overflow threshold on the result is infinite, and below it is the single that
is nearest to the number; of two that are equally near it is the one with the
even significand.  Normal and subnormal results are not told apart.

This determines the result, sign of zero included, and the main theorem says
that it is what narrowing returns.  Narrowing to either width keeps the order
of doubles, and narrowing the result once more changes nothing.
-/

namespace Closeness

open Binary

namespace Format

/-- Halfway from the largest single to the power of two that follows. -/
theorem overflowThreshold_binary32 :
    binary32.overflowThreshold = 2 ^ 128 - 2 ^ 103 := by
  have exponents : Nat.pow 2 (binary32.exponentBits - 1) = 128 := by
    decide
  have fits :
      Nat.pow 2 (binary32.exponentBits - 1) = 103 + 2 + binary32.fractionBits := by
    decide
  rw [binary32.overflowThreshold_eq fits, exponents]

/-- The implicit bit and the exponent field do not matter for parity. -/
theorem even_significandOf_iff
    (format : Format)
    (code : Nat) :
    Even (format.significandOf code) ↔ code % 2 = 0 := by
  have shifted := format.code_eq_shifted code
  have evenStart : 2 ∣ format.binadeOf code * format.hidden :=
    Dvd.dvd.mul_left format.hidden_even _
  rw [Nat.even_iff]
  omega

end Format

namespace Binary

variable {format : Format}

/--
A finite number is nearest to an exact one, and its significand is even if
another number is as near.
-/
structure IsNearest (exact : ℚ) (nearest : Binary format) : Prop where
  /-- The number is finite. -/
  isFinite_eq : nearest.isFinite = true
  /-- No finite number is nearer. -/
  abs_sub_le :
    ∀ other : Binary format, other.isFinite = true →
      |exact - nearest.value| ≤ |exact - other.value|
  /-- Of two equally near numbers it is the one with the even significand. -/
  even_of_tie :
    ∀ other : Binary format, other.isFinite = true → other.value ≠ nearest.value →
      |exact - other.value| = |exact - nearest.value| →
        Even (format.significandOf nearest.code)

/-- A finite number that is an exact one, rounded, is nearest to it. -/
theorem Rounds.isNearest
    {exact : ℚ}
    {number : Binary format}
    (rounded : Rounds exact number)
    (finite : number.isFinite = true) :
    IsNearest exact number where
  isFinite_eq := finite
  abs_sub_le := fun other otherFinite => rounded.nearest other finite otherFinite
  even_of_tie := by
    intro other otherFinite different tie
    rw [format.even_significandOf_iff]
    exact rounded.even_of_tie other finite otherFinite different tie

/-- Below the overflow threshold the nearest number is the exact one, rounded. -/
theorem IsNearest.rounds
    {exact : ℚ}
    {number : Binary format}
    (nearest : IsNearest exact number)
    (inRange : |exact| < format.overflowThreshold) :
    Rounds exact number where
  isNaN_eq := isNaN_of_isFinite nearest.isFinite_eq
  isInfinite_iff := by
    rw [isInfinite_of_isFinite nearest.isFinite_eq]
    exact iff_of_false Bool.false_ne_true inRange.not_ge
  eq_infinity := by
    intro infinite
    rw [isInfinite_of_isFinite nearest.isFinite_eq] at infinite
    cases infinite
  nearest := fun other _ otherFinite => nearest.abs_sub_le other otherFinite
  even_of_tie := by
    intro other _ otherFinite different tie
    rw [← format.even_significandOf_iff]
    exact nearest.even_of_tie other otherFinite different tie

/-- A double is another one, rounded to singles. -/
structure RoundsToSingle (number narrowed : Double) : Prop where
  /-- Rounding gives a number. -/
  isNaN_eq : narrowed.isNaN = false
  /-- The sign is kept, also if the result is zero. -/
  negative_eq : narrowed.negative = number.negative
  /-- Infinities and what is at least the overflow threshold become infinite, and nothing else. -/
  isInfinite_iff :
    narrowed.isInfinite = true ↔
      number.isInfinite = true ∨ 2 ^ 128 - 2 ^ 103 ≤ |number.value|
  /-- A finite result has the value of the nearest single. -/
  exists_isNearest :
    narrowed.isFinite = true →
      ∃ nearest : Single, IsNearest number.value nearest ∧ narrowed.value = nearest.value

namespace RoundsToSingle

variable {number left right : Double}

theorem abs_value_lt_of_isFinite
    (rounded : RoundsToSingle number left)
    (finite : left.isFinite = true) :
    |number.value| < Format.binary32.overflowThreshold := by
  have notLarge : ¬ (number.isInfinite = true ∨ 2 ^ 128 - 2 ^ 103 ≤ |number.value|) := by
    rw [← rounded.isInfinite_iff, isInfinite_of_isFinite finite]
    exact Bool.false_ne_true
  rw [Format.overflowThreshold_binary32, ← not_le]
  exact (not_or.mp notLarge).2

/-- A double is rounded to one double, sign of zero included. -/
theorem unique
    (leftRounded : RoundsToSingle number left)
    (rightRounded : RoundsToSingle number right) :
    left = right := by
  have signs : left.negative = right.negative := by
    rw [leftRounded.negative_eq, rightRounded.negative_eq]
  have together : left.isInfinite = true ↔ right.isInfinite = true := by
    rw [leftRounded.isInfinite_iff, rightRounded.isInfinite_iff]
  rcases isFinite_or_isInfinite leftRounded.isNaN_eq with finite | infinite
  · have rightFinite : right.isFinite = true := by
      apply (isFinite_or_isInfinite rightRounded.isNaN_eq).resolve_right
      rw [← together, isInfinite_of_isFinite finite]
      exact Bool.false_ne_true
    have inRange := leftRounded.abs_value_lt_of_isFinite finite
    obtain ⟨leftSingle, leftNearest, leftValue⟩ := leftRounded.exists_isNearest finite
    obtain ⟨rightSingle, rightNearest, rightValue⟩ := rightRounded.exists_isNearest rightFinite
    have singles : leftSingle.value = rightSingle.value :=
      (leftNearest.rounds inRange).value_eq (rightNearest.rounds inRange)
    have values : left.value = right.value := by
      rw [leftValue, rightValue, singles]
    -- The value leaves the choice between the zeros open, and the sign makes it.
    exact Binary.ext signs (code_eq_of_position_eq (value_eq_iff.mp values))
  · have rightInfinite := together.mp infinite
    rw [← infinity_of_isInfinite infinite, ← infinity_of_isInfinite rightInfinite, signs]

end RoundsToSingle

end Binary

namespace Width

/-- Narrowing to singles is rounding to singles. -/
theorem roundsToSingle_narrow
    {number : Double}
    (someNumber : number.isNaN = false) :
    RoundsToSingle number (single.narrow number) where
  isNaN_eq := (single.isNaN_narrow number).trans someNumber
  negative_eq := by
    rw [negative_narrow]
    exact negative_convert ..
  isInfinite_iff := by
    rw [isInfinite_narrow]
    show (number.convert .binary32).isInfinite = true ↔ _
    rcases isFinite_or_isInfinite someNumber with finite | infinite
    · rw [(rounds_convert .binary32 finite).isInfinite_iff, Format.overflowThreshold_binary32,
        isInfinite_of_isFinite finite]
      simp
    · rw [convert_of_isInfinite infinite]
      exact iff_of_true (isInfinite_infinity _) (Or.inl infinite)
  exists_isNearest := by
    intro narrowedFinite
    refine ⟨number.convert .binary32, ?_, single.value_narrow narrowedFinite⟩
    rw [isFinite_narrow] at narrowedFinite
    change (number.convert .binary32).isFinite = true at narrowedFinite
    rcases isFinite_or_isInfinite someNumber with finite | infinite
    · exact (rounds_convert .binary32 finite).isNearest narrowedFinite
    · rw [convert_of_isInfinite infinite,
        isFinite_of_isInfinite (isInfinite_infinity _)] at narrowedFinite
      cases narrowedFinite

theorem narrow_narrow
    (width : Width)
    {number : Double}
    (someNumber : number.isNaN = false) :
    width.narrow (width.narrow number) = width.narrow number := by
  rw [narrow, width.round_narrow someNumber, narrow]

/-- Narrowing keeps the order, though doubles may become equal. -/
theorem narrow_atMost_narrow
    (width : Width)
    {left right : Double}
    (ordered : left.atMost right = true) :
    (width.narrow left).atMost (width.narrow right) = true := by
  rw [narrow, narrow, width.atMost_widen]
  exact width.round_atMost_round ordered

end Width

namespace Value

theorem narrow_leaf_double
    (number : Double)
    (width : Width) :
    narrow (.leaf (.double number)) width = .ok (width.narrow number) :=
  rfl

/--
The wider width leaves a double as it is, bit for bit, and the narrower one
returns the double that is rounded to singles.  In either width narrowing the
result changes nothing, and greater doubles have results that are at least as
great.
-/
theorem narrow_correctly_rounded
    {number : Double}
    (someNumber : number.isNaN = false) :
    narrow (.leaf (.double number)) .double = .ok number ∧
      (∀ narrowed,
        narrow (.leaf (.double number)) .single = .ok narrowed ↔
          RoundsToSingle number narrowed) ∧
      ∀ width, ∃ narrowed,
        narrow (.leaf (.double number)) width = .ok narrowed ∧
          narrow (.leaf (.double narrowed)) width = .ok narrowed ∧
          ∀ other, number.atMost other = true →
            ∃ narrowedOther,
              narrow (.leaf (.double other)) width = .ok narrowedOther ∧
                narrowed.atMost narrowedOther = true := by
  have rounded := Width.roundsToSingle_narrow someNumber
  refine ⟨rfl, fun narrowed => ?_, fun width => ?_⟩
  · rw [narrow_leaf_double, Except.ok.injEq]
    constructor
    · rintro rfl
      exact rounded
    · exact rounded.unique
  · refine ⟨width.narrow number, rfl, ?_, fun other ordered => ?_⟩
    · rw [narrow_leaf_double, width.narrow_narrow someNumber]
    · exact ⟨width.narrow other, rfl, width.narrow_atMost_narrow ordered⟩

/-- Halfway from zero to the greatest negative single a double becomes zero and keeps its sign. -/
theorem narrow_correctly_rounded_of_tie :
    (ofRatio true Format.binary64.unitsOfOne (2 ^ 150) : Double).isNaN = false ∧
      (ofRatio true Format.binary64.unitsOfOne (2 ^ 150) : Double).value = -1 / 2 ^ 150 ∧
      narrow (.leaf (.double (ofRatio true Format.binary64.unitsOfOne (2 ^ 150)))) .double =
        .ok (ofRatio true Format.binary64.unitsOfOne (2 ^ 150)) ∧
      RoundsToSingle (ofRatio true Format.binary64.unitsOfOne (2 ^ 150)) (zero true) ∧
      ∃ narrowedOther,
        narrow (.leaf (.double (infinity false))) .single = .ok narrowedOther ∧
          (zero true).atMost narrowedOther = true := by
  have someNumber :
      (ofRatio true Format.binary64.unitsOfOne (2 ^ 150) : Double).isNaN = false := by
    decide +kernel
  have toZero :
      narrow (.leaf (.double (ofRatio true Format.binary64.unitsOfOne (2 ^ 150)))) .single =
        .ok (zero true) := by
    decide +kernel
  obtain ⟨unchanged, rounded, ordered⟩ := narrow_correctly_rounded someNumber
  obtain ⟨narrowed, narrows, -, atMost⟩ := ordered .single
  obtain rfl : zero true = narrowed := Except.ok.inj (toZero.symm.trans narrows)
  exact
    ⟨someNumber, by decide +kernel, unchanged, (rounded _).mp toZero,
      atMost (infinity false) (by decide +kernel)⟩

end Value

end Closeness
