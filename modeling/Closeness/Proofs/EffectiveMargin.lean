import Closeness.Proofs.MarginOverflow
import Closeness.Proofs.RelativeMargin

/-!
# The margin in use

The margin of a relative policy is a rounded product.  Its fraction is below
one, and rounding keeps the order, so between finite numbers the product is
rounded to a finite margin from zero up to the greater magnitude: the guard
against overflow is there for infinities only.

Next to an infinity the guard puts zero in the place of the product and records
it once.  A sum with zero does not overflow, so the policy then accepts exactly
the number that is equal to its target.
-/

namespace Closeness

open Binary

namespace Binary

variable {format : Format}

/-- The greater of two magnitudes stands for the greater of two absolute values. -/
theorem value_greater_abs
    {left right : Binary format}
    (leftNumber : left.isNaN = false)
    (rightNumber : right.isNaN = false) :
    (left.abs.greater right.abs).value = max |left.value| |right.value| := by
  have ordered : Monotone fun code => (format.unitsOfCode code : ℚ) / format.unitsOfOne := by
    intro lower upper less
    apply div_le_div_of_nonneg_right _ format.unitsOfOne_pos_rat.le
    exact_mod_cast format.unitsOfCode_strictMono.monotone less
  rw [abs_value, abs_value, value_eq, negative_greater_abs, if_neg Bool.false_ne_true,
    absValue, magnitude, code_greater_abs leftNumber rightNumber]
  exact ordered.map_max

theorem isZero_eq_false_of_value_pos
    {number : Binary format}
    (positive : 0 < number.value) :
    number.isZero = false := by
  rw [← Bool.not_eq_true]
  intro isZero
  rw [← zero_of_isZero isZero, value_zero] at positive
  exact lt_irrefl _ positive

/-- A finite number does not overflow with a margin of zero. -/
theorem not_overflowsWith_zero
    (number : Double) :
    ¬ number.OverflowsWith (zero false) := by
  rintro ⟨finite, large⟩
  have small := absValue_lt_overflowThreshold finite
  rw [← abs_value, abs_lt, Format.overflowThreshold_binary64] at small
  rw [value_zero, add_zero] at large
  exact absurd large (not_le.mpr small.2)

/-- Next to an infinity exactly equal numbers are within a margin of zero. -/
theorem withinMargin_zero_of_isInfinite
    {left right : Double}
    (leftNumber : left.isNaN = false)
    (rightNumber : right.isNaN = false)
    (unbounded : left.isInfinite = true ∨ right.isInfinite = true) :
    left.withinMargin right (zero false) = left.equals right := by
  have zeroFinite : (zero false : Double).isFinite = true := by
    decide
  rw [Bool.eq_iff_iff,
    withinMargin_iff_of_isInfinite leftNumber rightNumber unbounded zeroFinite]
  simp only [not_overflowsWith_zero, and_false, or_false]

end Binary

namespace Tolerance

variable
    {fraction target candidate : Double}
    (valid : (epsilon fraction).Valid)
    (targetFinite : target.isFinite = true)
    (candidateFinite : candidate.isFinite = true)

include valid targetFinite candidateFinite

/-- Between finite numbers the margin is the exact product, rounded. -/
theorem rounds_relativeMargin :
    Rounds (fraction.value * max |candidate.value| |target.value|)
      (relativeMargin fraction target candidate) := by
  rw [← value_greater_abs (isNaN_of_isFinite candidateFinite) (isNaN_of_isFinite targetFinite)]
  exact
    rounds_mul (isFinite_of_valid_epsilon valid)
      (isFinite_greater_abs candidateFinite targetFinite)

theorem value_relativeMargin_nonneg :
    0 ≤ (relativeMargin fraction target candidate).value := by
  have nonneg := zero_atMost_relativeMargin valid targetFinite candidateFinite
  have finite := isFinite_relativeMargin valid targetFinite candidateFinite
  rwa [atMost_iff (isNaN_zero false) (isNaN_of_isFinite finite), ← value_le_iff,
    value_zero] at nonneg

/-- Between finite numbers the margin is at most the greater magnitude. -/
theorem value_relativeMargin_le :
    (relativeMargin fraction target candidate).value ≤ max |candidate.value| |target.value| := by
  have shrinks :=
    code_mul_le (isFinite_of_valid_epsilon valid)
      (isFinite_greater_abs candidateFinite targetFinite) (magnitude_le_unitsOfOne valid)
  rw [← value_greater_abs (isNaN_of_isFinite candidateFinite) (isNaN_of_isFinite targetFinite),
    value_le_iff, relativeMargin]
  have greaterPosition :
      (candidate.abs.greater target.abs).position = (candidate.abs.greater target.abs).code := by
    rw [position, negative_greater_abs, if_neg Bool.false_ne_true]
  rw [← natAbs_position] at shrinks
  omega

end Tolerance

namespace Policy

section Relative

variable
    {policy : Policy}
    {fraction number : Double}
    {candidate : Value}
    (relative : policy.tolerance = .epsilon fraction)
    (converts : candidate.toDouble = .ok number)
    (valid : (Tolerance.epsilon fraction).Valid)

include relative converts

/-- A relative policy compares with the margin in use and records its overflow. -/
theorem acceptsValue_of_relative :
    policy.acceptsValue candidate =
      ⟨Tolerance.overflowRecords fraction policy.target number,
        .ok (number.withinMargin policy.target
          (Tolerance.effectiveMargin fraction policy.target number))⟩ := by
  rw [policy.acceptsValue_eq_verdict converts, verdict, records, accepts, relative]

include valid

/-- Between finite numbers the product itself is the margin, and nothing is recorded. -/
theorem effectiveMargin_of_isFinite
    (finite : number.isFinite = true)
    (targetFinite : policy.target.isFinite = true) :
    policy.effectiveMargin candidate =
        ⟨[], .ok (Tolerance.relativeMargin fraction policy.target number)⟩ ∧
      (policy.acceptsValue candidate).records = [] := by
  constructor
  · rw [effectiveMargin_of_converts relative converts,
      Tolerance.overflowRecords_of_isFinite valid targetFinite finite,
      Tolerance.effectiveMargin_of_isFinite valid targetFinite finite]
  · rw [acceptsValue_of_relative relative converts]
    exact Tolerance.overflowRecords_of_isFinite valid targetFinite finite

/-- Next to an infinity the margin is zero, the overflow is recorded and equality decides. -/
theorem effectiveMargin_of_isInfinite
    (positive : 0 < fraction.value)
    (targetNumber : policy.target.isNaN = false)
    (someNumber : number.isNaN = false)
    (unbounded : number.isInfinite = true ∨ policy.target.isInfinite = true) :
    policy.effectiveMargin candidate =
        ⟨[.overflowed number policy.target], .ok (zero false)⟩ ∧
      policy.acceptsValue candidate =
        ⟨[.overflowed number policy.target], .ok (number.equals policy.target)⟩ := by
  have fractionNumber := isNaN_of_isFinite (Tolerance.isFinite_of_valid_epsilon valid)
  have away := isZero_eq_false_of_value_pos positive
  have recorded :=
    Tolerance.overflowRecords_of_isInfinite fractionNumber away targetNumber someNumber unbounded
  have clamped :=
    Tolerance.effectiveMargin_of_isInfinite fractionNumber away targetNumber someNumber unbounded
  constructor
  · rw [effectiveMargin_of_converts relative converts, recorded, clamped]
  · rw [acceptsValue_of_relative relative converts, recorded, clamped,
      withinMargin_zero_of_isInfinite someNumber targetNumber unbounded]

end Relative

/--
For finite numbers the margin of a relative policy is the number that the exact
product of the fraction and the greater magnitude is rounded to; it lies
between zero and that magnitude and nothing is recorded.  For a fraction above
zero and an infinite candidate or target the margin is zero, the overflow is
recorded once, and the candidate is accepted exactly if it is equal to the
target.
-/
theorem effectiveMargin_rounds_or_overflows
    {recipe : Recipe}
    {policy : Policy}
    {fraction number : Double}
    {candidate : Value}
    (built : recipe.build.outcome = .ok policy)
    (relative : policy.tolerance = .epsilon fraction)
    (converts : candidate.toDouble = .ok number)
    (targetNumber : policy.target.isNaN = false)
    (someNumber : number.isNaN = false) :
    (number.isFinite = true →
      policy.target.isFinite = true →
        ∃ margin,
          policy.effectiveMargin candidate = ⟨[], .ok margin⟩ ∧
            Rounds (fraction.value * max |number.value| |policy.target.value|) margin ∧
            (∀ other, Rounds (fraction.value * max |number.value| |policy.target.value|) other →
              margin.equals other = true) ∧
            margin.isFinite = true ∧
            0 ≤ margin.value ∧
            margin.value ≤ max |number.value| |policy.target.value| ∧
            (policy.acceptsValue candidate).records = []) ∧
      (0 < fraction.value →
        (number.isInfinite = true ∨ policy.target.isInfinite = true) →
          policy.effectiveMargin candidate =
              ⟨[.overflowed number policy.target], .ok (zero false)⟩ ∧
            policy.acceptsValue candidate =
              ⟨[.overflowed number policy.target], .ok (number.equals policy.target)⟩) := by
  have valid : (Tolerance.epsilon fraction).Valid := by
    rw [← relative]
    exact Recipe.valid_of_build built
  constructor
  · intro finite targetFinite
    obtain ⟨margin, silent⟩ :=
      effectiveMargin_of_isFinite relative converts valid finite targetFinite
    have rounded := Tolerance.rounds_relativeMargin valid targetFinite finite
    exact
      ⟨_, margin, rounded, fun _ otherRounded => rounded.equals otherRounded,
        Tolerance.isFinite_relativeMargin valid targetFinite finite,
        Tolerance.value_relativeMargin_nonneg valid targetFinite finite,
        Tolerance.value_relativeMargin_le valid targetFinite finite, silent⟩
  · intro positive unbounded
    exact
      effectiveMargin_of_isInfinite relative converts valid positive targetNumber someNumber
        unbounded

/--
The fraction just below one and the least double, whose product is rounded up
to the whole magnitude; and the same policy next to an infinity.
-/
theorem effectiveMargin_rounds_or_overflows_of_least :
    (Recipe.relative (.leaf (.double (least false)))
          (.leaf (.double (nextDown (ofInt 1))))).build.outcome =
        .ok ⟨least false, .epsilon (nextDown (ofInt 1))⟩ ∧
      (least false : Double).isNaN = false ∧
      (least true : Double).isNaN = false ∧
      (least false : Double).isFinite = true ∧
      (least true : Double).isFinite = true ∧
      (infinity true : Double).isNaN = false ∧
      (infinity true : Double).isInfinite = true ∧
      0 < (nextDown (ofInt 1) : Double).value ∧
      Rounds
        ((nextDown (ofInt 1) : Double).value *
          max |(least true : Double).value| |(least false : Double).value|)
        (least false : Double) ∧
      effectiveMargin ⟨least false, .epsilon (nextDown (ofInt 1))⟩
          (.leaf (.double (least true))) =
        ⟨[], .ok (least false)⟩ ∧
      effectiveMargin ⟨least false, .epsilon (nextDown (ofInt 1))⟩
          (.leaf (.double (infinity true))) =
        ⟨[.overflowed (infinity true) (least false)], .ok (zero false)⟩ := by
  have built :
      (Recipe.relative (.leaf (.double (least false)))
          (.leaf (.double (nextDown (ofInt 1))))).build.outcome =
        .ok ⟨least false, .epsilon (nextDown (ofInt 1))⟩ := by
    decide +kernel
  have positive : 0 < (nextDown (ofInt 1) : Double).value := by
    rw [← value_zero false, value_lt_iff]
    decide +kernel
  have targetNumber : (least false : Double).isNaN = false := by
    decide
  have someNumber : (least true : Double).isNaN = false := by
    decide
  have targetFinite : (least false : Double).isFinite = true := by
    decide
  have finite : (least true : Double).isFinite = true := by
    decide
  have infinityNumber : (infinity true : Double).isNaN = false := by
    decide
  have infinite : (infinity true : Double).isInfinite = true := by
    decide
  have whole :
      Tolerance.effectiveMargin (nextDown (ofInt 1)) (least false) (least true) = least false := by
    decide +kernel
  obtain ⟨margin, used, rounded, -⟩ :=
    (@effectiveMargin_rounds_or_overflows _ _ _ _ (.leaf (.double (least true))) built rfl rfl
      targetNumber someNumber).1 finite targetFinite
  have computed := congrArg Logged.outcome used
  rw [effectiveMargin_of_converts rfl rfl] at computed
  dsimp only at computed
  rw [whole] at computed
  cases computed
  exact
    ⟨built, targetNumber, someNumber, targetFinite, finite, infinityNumber, infinite, positive,
      rounded, used,
      ((@effectiveMargin_rounds_or_overflows _ _ _ _ (.leaf (.double (infinity true))) built rfl
        rfl targetNumber infinityNumber).2 positive (Or.inl infinite)).1⟩

end Policy

end Closeness
