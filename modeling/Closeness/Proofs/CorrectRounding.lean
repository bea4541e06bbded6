import Closeness.Proofs.Monotonicity

/-!
# Correctly rounded results

`Rounds exact number` says what it means that a number is an exact one, rounded
to the nearest, without saying how it is computed.  Below the overflow
threshold it is finite, no finite number is nearer to the exact one, and if
another is as near its code is even.  From the threshold on it is the infinity
of the sign of the exact number.

The main theorems say that the sum and the product of finite numbers are their
exact sum and product, rounded in this sense.  What a caller needs to know of a
rounded operation follows from the definition alone; in particular it leaves
one number, up to the sign of zero.
-/

namespace Closeness

namespace Format

variable (format : Format)

/-- Halfway from the largest finite magnitude to the power of two that follows. -/
def overflowThreshold : ℚ :=
  format.midpoint format.largestCode / format.unitsOfOne

theorem overflowThreshold_pos : 0 < format.overflowThreshold := by
  apply div_pos _ format.unitsOfOne_pos_rat
  have nonneg : (0 : ℚ) ≤ format.unitsOfCode format.largestCode :=
    Nat.cast_nonneg _
  exact nonneg.trans_lt (format.unitsOfCode_lt_midpoint _)

theorem largestCode_add_one : format.largestCode + 1 = format.infinityCode :=
  Nat.sub_add_cancel format.infinityCode_pos

/-- The largest finite magnitude has an odd code, so a tie at its upper midpoint leaves it. -/
theorem largestCode_odd : format.largestCode % 2 = 1 := by
  have next := format.largestCode_add_one
  have even : 2 ∣ format.infinityCode :=
    Dvd.dvd.mul_left format.hidden_even _
  omega

/-- The gap above the largest finite magnitude is twice the power of two that rounding allows for. -/
theorem spacing_largestCode
    {room : Nat}
    (fits : Nat.pow 2 (format.exponentBits - 1) = room + 2 + format.fractionBits) :
    format.spacing format.largestCode = 2 * 2 ^ room * format.unitsOfOne := by
  have binade : format.binadeOf format.largestCode = room + 1 + format.scale := by
    have two_le := format.two_le_pow_exponentBits_sub_one
    have positive := format.hidden_pos
    have lastBinade :
        format.largestCode =
          format.hidden - 1 + (2 * Nat.pow 2 (format.exponentBits - 1) - 2) * format.hidden := by
      rw [largestCode, infinityCode, pow_exponentBits_eq]
      generalize Nat.pow 2 (format.exponentBits - 1) = half at *
      have next : 2 * half - 1 = 2 * half - 2 + 1 := by
        omega
      rw [next, Nat.succ_mul]
      omega
    rw [binadeOf, lastBinade, Nat.add_mul_div_right _ _ positive,
      Nat.div_eq_of_lt (Nat.sub_lt positive Nat.one_pos), scale]
    omega
  rw [spacing, binade, unitsOfOne, Nat.pow_eq, Nat.pow_add, Nat.pow_succ']

/-- The overflow threshold of a format whose exponents reach beyond its fractions. -/
theorem overflowThreshold_eq
    {room : Nat}
    (fits : Nat.pow 2 (format.exponentBits - 1) = room + 2 + format.fractionBits) :
    format.overflowThreshold = 2 ^ Nat.pow 2 (format.exponentBits - 1) - 2 ^ room := by
  have positive := format.unitsOfOne_pos_rat
  have gap : (format.spacing format.largestCode : ℚ) = 2 * 2 ^ room * format.unitsOfOne := by
    exact_mod_cast format.spacing_largestCode fits
  have last :
      (format.unitsOfCode (format.largestCode + 1) : ℚ) =
        format.unitsOfOne * 2 ^ Nat.pow 2 (format.exponentBits - 1) := by
    rw [largestCode_add_one]
    exact_mod_cast format.unitsOfCode_infinityCode
  have step :
      (format.unitsOfCode (format.largestCode + 1) : ℚ) =
        format.unitsOfCode format.largestCode + format.spacing format.largestCode := by
    exact_mod_cast format.unitsOfCode_succ format.largestCode
  rw [overflowThreshold, midpoint, div_div, div_eq_iff (by positivity)]
  linarith

/-- Ratios are rounded past the largest code from the midpoint above it on. -/
theorem infinityCode_le_unboundedCode_iff
    (numerator : Nat)
    {denominator : Nat}
    (positive : 0 < denominator) :
    format.infinityCode ≤ format.unboundedCode numerator denominator ↔
      format.midpoint format.largestCode ≤ (numerator : ℚ) / denominator := by
  have odd := format.largestCode_odd
  have next := format.largestCode_add_one
  have compare := format.unboundedCode_le_iff_ratio numerator format.largestCode positive
  rw [← next, Nat.succ_le_iff, ← not_le, compare, ← not_lt]
  simp [odd]

/-- A code that a ratio is rounded to is even if the ratio is as near to another magnitude. -/
theorem even_unboundedCode_of_tie
    {numerator denominator code : Nat}
    (positive : 0 < denominator)
    (other : code ≠ format.unboundedCode numerator denominator)
    (tie :
      |(numerator : ℚ) / denominator - format.unitsOfCode code| =
        |(numerator : ℚ) / denominator -
          format.unitsOfCode (format.unboundedCode numerator denominator)|) :
    format.unboundedCode numerator denominator % 2 = 0 := by
  have monotone : ∀ {lower upper : Nat}, lower ≤ upper →
      (format.unitsOfCode lower : ℚ) ≤ format.unitsOfCode upper := by
    intro lower upper ordered
    exact_mod_cast format.unitsOfCode_strictMono.monotone ordered
  have strict : ∀ {lower upper : Nat}, lower < upper →
      (format.unitsOfCode lower : ℚ) < format.unitsOfCode upper := by
    intro lower upper ordered
    exact_mod_cast format.unitsOfCode_strictMono ordered
  have within := format.unboundedCode_le_iff_ratio numerator _ positive |>.mp le_rfl
  have compare := fun previous => format.unboundedCode_le_iff_ratio numerator previous positive
  have passed := fun previous => @midpoint_le_ratio format numerator denominator previous positive
  generalize format.unboundedCode numerator denominator = selected at *
  generalize (numerator : ℚ) / denominator = ratio at *
  -- Distances are equal on different sides only, so the ratio is the midpoint between the two.
  rcases Nat.lt_or_gt_of_ne other with smaller | greater
  · obtain ⟨previous, rfl⟩ :=
      Nat.exists_eq_add_one.mpr (Nat.lt_of_le_of_lt (Nat.zero_le _) smaller)
    have above := passed previous (Nat.lt_add_one previous)
    have codeBelow := monotone (Nat.le_of_lt_succ smaller)
    have apart := strict smaller
    have onMidpoint : ratio = format.midpoint previous := by
      apply le_antisymm _ above
      rw [midpoint] at above ⊢
      rcases abs_eq_abs.mp tie with same | opposite <;> linarith
    have notSelected : ¬ previous % 2 = 0 := by
      intro even
      exact absurd ((compare previous).mpr (Or.inr ⟨onMidpoint, even⟩)) (by omega)
    omega
  · rcases within with below | ⟨-, even⟩
    · exfalso
      have codeAbove := monotone (Nat.succ_le_of_lt greater)
      have apart := strict greater
      rw [midpoint] at below
      rw [Nat.succ_eq_add_one] at codeAbove
      rcases abs_eq_abs.mp tie with same | opposite <;> linarith
    · exact even

end Format

namespace Binary

variable {format : Format}

/-- A number is an exact one, rounded to the nearest with ties to even codes. -/
structure Rounds (exact : ℚ) (number : Binary format) : Prop where
  /-- Rounding gives a number. -/
  isNaN_eq : number.isNaN = false
  /-- Numbers from the threshold on are rounded to infinity, and no others are. -/
  isInfinite_iff : number.isInfinite = true ↔ format.overflowThreshold ≤ |exact|
  /-- An infinite result has the sign of the exact number. -/
  eq_infinity : number.isInfinite = true → number = infinity (exact < 0)
  /-- No finite number is nearer than a finite result. -/
  nearest :
    ∀ other : Binary format, number.isFinite = true → other.isFinite = true →
      |exact - number.value| ≤ |exact - other.value|
  /-- A finite result is even if another finite number is as near. -/
  even_of_tie :
    ∀ other : Binary format, number.isFinite = true → other.isFinite = true →
      other.value ≠ number.value →
      |exact - other.value| = |exact - number.value| →
        number.code % 2 = 0

theorem value_eq
    (number : Binary format) :
    number.value = if number.negative then -number.absValue else number.absValue := by
  rw [value, absValue, units]
  split
  · push_cast
    ring
  · rfl

/-- The exact number that `ofRatio` rounds. -/
def ratioValue (format : Format) (negative : Bool) (numerator denominator : Nat) : ℚ :=
  let magnitude := (numerator : ℚ) / denominator / format.unitsOfOne
  if negative then -magnitude else magnitude

section OfRatio

variable (negative : Bool) (numerator denominator : Nat)

theorem abs_ratioValue :
    |ratioValue format negative numerator denominator| =
      (numerator : ℚ) / denominator / format.unitsOfOne := by
  have nonneg : 0 ≤ (numerator : ℚ) / denominator / format.unitsOfOne := by
    positivity
  rw [ratioValue]
  split
  · rw [abs_neg, abs_of_nonneg nonneg]
  · exact abs_of_nonneg nonneg

/-- Distances of magnitudes are those of codes, in units. -/
theorem abs_ratio_sub_absValue
    (number : Binary format) :
    |(numerator : ℚ) / denominator / format.unitsOfOne - number.absValue| =
      |(numerator : ℚ) / denominator - format.unitsOfCode number.code| / format.unitsOfOne := by
  rw [absValue, magnitude, ← sub_div, abs_div, abs_of_pos format.unitsOfOne_pos_rat]

/-- A result of the sign of the exact number is as far from it as their magnitudes are. -/
theorem abs_ratioValue_sub_value
    {number : Binary format}
    (sign : number.negative = negative) :
    |ratioValue format negative numerator denominator - number.value| =
      |(numerator : ℚ) / denominator / format.unitsOfOne - number.absValue| := by
  rw [ratioValue, value_eq, sign]
  split
  · rw [neg_sub_neg, abs_sub_comm]
  · rfl

/-- Any other number is at least as far from it as their magnitudes are. -/
theorem abs_ratio_sub_absValue_le
    (other : Binary format) :
    |(numerator : ℚ) / denominator / format.unitsOfOne - other.absValue| ≤
      |ratioValue format negative numerator denominator - other.value| := by
  rw [← abs_ratioValue negative, ← abs_value]
  exact abs_abs_sub_abs_le _ _

theorem code_ofRatio_of_isFinite
    (finite : (ofRatio negative numerator denominator : Binary format).isFinite = true) :
    (ofRatio negative numerator denominator : Binary format).code =
      format.unboundedCode numerator denominator := by
  rw [isFinite_iff, code_ofRatio, min_lt_iff] at finite
  rw [code_ofRatio, min_eq_left]
  rcases finite with below | never
  · exact below.le
  · exact absurd never (Nat.lt_irrefl _)

variable {denominator}

theorem isInfinite_ofRatio_iff
    (positive : 0 < denominator) :
    (ofRatio negative numerator denominator : Binary format).isInfinite = true ↔
      format.overflowThreshold ≤ |ratioValue format negative numerator denominator| := by
  rw [isInfinite_iff, code_ofRatio, min_eq_right_iff,
    format.infinityCode_le_unboundedCode_iff numerator positive, abs_ratioValue,
    Format.overflowThreshold, div_le_div_iff_of_pos_right format.unitsOfOne_pos_rat]

theorem nearest_ofRatio
    (positive : 0 < denominator)
    (finite : (ofRatio negative numerator denominator : Binary format).isFinite = true)
    (other : Binary format) :
    |ratioValue format negative numerator denominator -
        (ofRatio negative numerator denominator : Binary format).value| ≤
      |ratioValue format negative numerator denominator - other.value| := by
  have unitPositive := format.unitsOfOne_pos_rat
  calc
    |ratioValue format negative numerator denominator -
          (ofRatio negative numerator denominator : Binary format).value| =
        |(numerator : ℚ) / denominator -
          format.unitsOfCode (format.unboundedCode numerator denominator)| /
            format.unitsOfOne := by
      rw [abs_ratioValue_sub_value negative numerator denominator rfl, abs_ratio_sub_absValue,
        code_ofRatio_of_isFinite negative numerator denominator finite]
    _ ≤ |(numerator : ℚ) / denominator - format.unitsOfCode other.code| / format.unitsOfOne :=
      div_le_div_of_nonneg_right
        (format.abs_sub_unboundedCode_le numerator other.code positive) unitPositive.le
    _ = |(numerator : ℚ) / denominator / format.unitsOfOne - other.absValue| :=
      (abs_ratio_sub_absValue numerator denominator other).symm
    _ ≤ |ratioValue format negative numerator denominator - other.value| :=
      abs_ratio_sub_absValue_le negative numerator denominator other

/-- A tie with a number of the same magnitude is a tie between opposites, so it is at zero. -/
theorem ratioValue_eq_zero_of_opposite
    {number other : Binary format}
    (sameCode : other.code = number.code)
    (different : other.value ≠ number.value)
    {exact : ℚ}
    (tie : |exact - other.value| = |exact - number.value|) :
    exact = 0 := by
  have magnitudes : other.absValue = number.absValue := by
    rw [absValue, absValue, magnitude, magnitude, sameCode]
  have opposite : other.value = -number.value := by
    rw [← abs_value, ← abs_value] at magnitudes
    exact (abs_eq_abs.mp magnitudes).resolve_left different
  rw [opposite] at tie different
  rcases abs_eq_abs.mp tie with same | mirrored
  · exact absurd (by linarith) different
  · linarith

theorem even_of_tie_ofRatio
    (positive : 0 < denominator)
    (finite : (ofRatio negative numerator denominator : Binary format).isFinite = true)
    {other : Binary format}
    (different :
      other.value ≠ (ofRatio negative numerator denominator : Binary format).value)
    (tie :
      |ratioValue format negative numerator denominator - other.value| =
        |ratioValue format negative numerator denominator -
          (ofRatio negative numerator denominator : Binary format).value|) :
    (ofRatio negative numerator denominator : Binary format).code % 2 = 0 := by
  have unitPositive := format.unitsOfOne_pos_rat
  have selected := code_ofRatio_of_isFinite negative numerator denominator finite
  by_cases sameCode :
      other.code = (ofRatio negative numerator denominator : Binary format).code
  · have atZero := ratioValue_eq_zero_of_opposite sameCode different tie
    have small : (numerator : ℚ) / denominator < 1 / 2 := by
      rw [← abs_eq_zero, abs_ratioValue, div_eq_zero_iff,
        or_iff_left unitPositive.ne'] at atZero
      rw [atZero]
      norm_num
    rw [selected, format.unboundedCode_eq_zero positive small]
  · rw [selected] at sameCode ⊢
    apply format.even_unboundedCode_of_tie positive sameCode
    apply le_antisymm _ (format.abs_sub_unboundedCode_le numerator other.code positive)
    have magnitudes := abs_ratio_sub_absValue_le negative numerator denominator other
    rw [tie, abs_ratioValue_sub_value negative numerator denominator rfl,
      abs_ratio_sub_absValue, abs_ratio_sub_absValue, selected,
      div_le_div_iff_of_pos_right unitPositive] at magnitudes
    exact magnitudes

/-- The number of a ratio is the exact ratio, rounded. -/
theorem rounds_ofRatio
    (positive : 0 < denominator) :
    Rounds (ratioValue format negative numerator denominator)
      (ofRatio negative numerator denominator : Binary format) where
  isNaN_eq := isNaN_ofRatio ..
  isInfinite_iff := isInfinite_ofRatio_iff negative numerator positive
  eq_infinity := by
    intro infinite
    have large := (isInfinite_ofRatio_iff negative numerator positive).mp infinite
    have away := lt_of_lt_of_le format.overflowThreshold_pos large
    rw [abs_ratioValue] at away
    rw [← infinity_of_isInfinite infinite]
    congr 1
    show negative = _
    cases negative <;> simp [ratioValue, away, away.le]
  nearest := by
    intro other finite _
    exact nearest_ofRatio negative numerator positive finite other
  even_of_tie := by
    intro other finite _ different tie
    exact even_of_tie_ofRatio negative numerator positive finite different tie

end OfRatio

/-! ## Sums and products -/

theorem rounds_ofUnits
    (units : Int)
    (zeroSign : Bool) :
    Rounds ((units : ℚ) / format.unitsOfOne) (ofUnits units zeroSign : Binary format) := by
  have exact :
      ratioValue format (if units = 0 then zeroSign else units < 0) units.natAbs 1 =
        (units : ℚ) / format.unitsOfOne := by
    have magnitude : (units.natAbs : ℚ) = |(units : ℚ)| := by
      rw [Nat.cast_natAbs, Int.cast_abs]
    rw [ratioValue, magnitude, Nat.cast_one, div_one]
    rcases Int.lt_trichotomy units 0 with negative | rfl | positive
    · have below : (units : ℚ) < 0 := by
        exact_mod_cast negative
      simp [negative, negative.ne, abs_of_neg below, neg_div]
    · simp
    · have above : (0 : ℚ) < units := by
        exact_mod_cast positive
      simp [positive.ne', positive.le, abs_of_pos above]
  rw [← exact]
  exact rounds_ofRatio _ _ Nat.one_pos

/-- The sum of finite numbers is their exact sum, rounded. -/
theorem rounds_add
    {left right : Binary format}
    (leftFinite : left.isFinite = true)
    (rightFinite : right.isFinite = true) :
    Rounds (left.value + right.value) (left + right) := by
  have exact :
      left.value + right.value =
        ((left.units + right.units : Int) : ℚ) / format.unitsOfOne := by
    rw [value, value, ← add_div, Int.cast_add]
  rw [exact, add_of_isFinite leftFinite rightFinite]
  exact rounds_ofUnits ..

/-- The product of finite numbers is their exact product, rounded. -/
theorem rounds_mul
    {left right : Binary format}
    (leftFinite : left.isFinite = true)
    (rightFinite : right.isFinite = true) :
    Rounds (left.value * right.value) (left * right) := by
  have exact :
      ratioValue format (left.negative != right.negative)
          (left.magnitude * right.magnitude) format.unitsOfOne =
        left.value * right.value := by
    rw [ratioValue, value_eq, value_eq, absValue, absValue]
    cases left.negative <;> cases right.negative <;> simp <;> ring
  rw [← exact, mul_of_isFinite leftFinite rightFinite]
  exact rounds_ofRatio _ _ format.unitsOfOne_pos

/-! ## Order -/

/-- No finite magnitude exceeds the one of the largest code. -/
theorem unitsOfCode_le_largest
    {number : Binary format}
    (finite : number.isFinite = true) :
    (format.unitsOfCode number.code : ℚ) ≤ format.unitsOfCode format.largestCode := by
  have inRange : number.code ≤ format.largestCode :=
    Nat.le_sub_one_of_lt (isFinite_iff.mp finite)
  exact_mod_cast format.unitsOfCode_strictMono.monotone inRange

/-- Finite magnitudes are below the overflow threshold. -/
theorem absValue_lt_overflowThreshold
    {number : Binary format}
    (finite : number.isFinite = true) :
    number.absValue < format.overflowThreshold :=
  div_lt_div_of_pos_right
    ((unitsOfCode_le_largest finite).trans_lt (format.unitsOfCode_lt_midpoint _))
    format.unitsOfOne_pos_rat

/-- The infinity above a finite number is the positive one. -/
theorem eq_infinity_of_atMost
    {lower upper : Binary format}
    (lowerFinite : lower.isFinite = true)
    (upperInfinite : upper.isInfinite = true)
    (ordered : lower.atMost upper = true) :
    upper = infinity false := by
  have same := infinity_of_isInfinite upperInfinite
  cases sign : upper.negative with
  | false => rw [← same, sign]
  | true =>
      rw [sign] at same
      rw [← same] at ordered
      rw [eq_infinity_of_atMost_infinity ordered,
        isFinite_of_isInfinite (isInfinite_infinity true)] at lowerFinite
      cases lowerFinite

namespace Rounds

variable {exact : ℚ} {number : Binary format}

/-- Positive infinity is what exact numbers from the threshold on are rounded to. -/
theorem eq_infinity_iff
    (rounded : Rounds exact number) :
    number = infinity false ↔ format.overflowThreshold ≤ exact := by
  have positive := format.overflowThreshold_pos
  constructor
  · rintro rfl
    have infinite := @isInfinite_infinity format false
    have large := rounded.isInfinite_iff.mp infinite
    have sign := congrArg Binary.negative (rounded.eq_infinity infinite)
    have nonneg : 0 ≤ exact := not_lt.mp (of_decide_eq_false sign.symm)
    rwa [abs_of_nonneg nonneg] at large
  · intro large
    have nonneg : ¬ exact < 0 := by
      linarith
    have infinite := rounded.isInfinite_iff.mpr (large.trans (le_abs_self exact))
    rw [rounded.eq_infinity infinite, decide_eq_false nonneg]

theorem isFinite_of_isFinite
    {other : Binary format}
    (rounded : Rounds exact number)
    (otherRounded : Rounds exact other)
    (finite : number.isFinite = true) :
    other.isFinite = true := by
  rcases isFinite_or_isInfinite otherRounded.isNaN_eq with otherFinite | otherInfinite
  · exact otherFinite
  · have infinite := rounded.isInfinite_iff.mpr (otherRounded.isInfinite_iff.mp otherInfinite)
    rw [isFinite_of_isInfinite infinite] at finite
    cases finite

/-- Of two finite results of rounding one number, none is above the other. -/
theorem position_le
    {other : Binary format}
    (rounded : Rounds exact number)
    (otherRounded : Rounds exact other)
    (finite : number.isFinite = true) :
    other.position ≤ number.position := by
  have otherFinite := rounded.isFinite_of_isFinite otherRounded finite
  by_contra above
  have apart := value_lt_iff.mpr (not_le.mp above)
  have tie : |exact - other.value| = |exact - number.value| :=
    le_antisymm (otherRounded.nearest number otherFinite finite)
      (rounded.nearest other finite otherFinite)
  have even := rounded.even_of_tie other finite otherFinite apart.ne' tie
  have otherEven := otherRounded.even_of_tie number otherFinite finite apart.ne tie.symm
  -- Both codes are even, so a number lies between the two, and it is nearer than both.
  have short := isFinite_iff_position.mp finite
  have otherShort := isFinite_iff_position.mp otherFinite
  rw [← natAbs_position] at even otherEven
  obtain ⟨middle, middleFinite, position⟩ :=
    @exists_position_eq format (number.position + 1) (by omega)
  have fromBelow : number.value < middle.value := value_lt_iff.mpr (by omega)
  have toAbove : middle.value < other.value := value_lt_iff.mpr (by omega)
  have near := rounded.nearest middle finite middleFinite
  rcases abs_eq_abs.mp tie with same | opposite
  · linarith
  · rw [abs_of_nonneg (by linarith)] at near
    rcases abs_cases (exact - middle.value) with ⟨distance, -⟩ | ⟨distance, -⟩
    · linarith
    · linarith

/-- An exact number is rounded to one number, up to the sign of zero. -/
theorem equals
    {other : Binary format}
    (rounded : Rounds exact number)
    (otherRounded : Rounds exact other) :
    number.equals other = true := by
  rw [equals_iff rounded.isNaN_eq otherRounded.isNaN_eq]
  rcases isFinite_or_isInfinite rounded.isNaN_eq with finite | infinite
  · have otherFinite := rounded.isFinite_of_isFinite otherRounded finite
    exact
      le_antisymm (otherRounded.position_le rounded otherFinite)
        (rounded.position_le otherRounded finite)
  · have otherInfinite := otherRounded.isInfinite_iff.mpr (rounded.isInfinite_iff.mp infinite)
    rw [rounded.eq_infinity infinite, otherRounded.eq_infinity otherInfinite]

/-- Rounding does not go past a finite number below. -/
theorem atMost_of_value_le
    (rounded : Rounds exact number)
    {lower : Binary format}
    (lowerFinite : lower.isFinite = true)
    (below : lower.value ≤ exact) :
    lower.atMost number = true := by
  have lowerNumber := isNaN_of_isFinite lowerFinite
  rcases isFinite_or_isInfinite rounded.isNaN_eq with finite | infinite
  · rw [atMost_iff lowerNumber rounded.isNaN_eq, ← value_le_iff]
    have near := rounded.nearest lower finite lowerFinite
    rw [abs_of_nonneg (sub_nonneg.mpr below), abs_le] at near
    linarith
  · have large := rounded.isInfinite_iff.mp infinite
    have small := absValue_lt_overflowThreshold lowerFinite
    rw [← abs_value, abs_lt] at small
    have nonneg : ¬ exact < 0 := by
      intro negative
      rw [abs_of_neg negative] at large
      linarith
    rw [rounded.eq_infinity infinite, decide_eq_false nonneg]
    exact atMost_infinity lowerNumber

/--
A finite number that is reached by rounding is above the exact number by at
most half of its distance from any number below it.
-/
theorem sub_le_half_gap
    (rounded : Rounds exact number)
    {below upper : Binary format}
    (belowFinite : below.isFinite = true)
    (upperFinite : upper.isFinite = true)
    (apart : below.value < upper.value)
    (reached : upper.atMost number = true) :
    upper.value - exact ≤ (upper.value - below.value) / 2 := by
  rcases le_or_gt upper.value exact with passed | short
  · linarith
  · rcases isFinite_or_isInfinite rounded.isNaN_eq with finite | infinite
    · -- The exact number lies below the result, which is no further from it than `below` is.
      have near := rounded.nearest below finite belowFinite
      rw [atMost_iff (isNaN_of_isFinite upperFinite) rounded.isNaN_eq, ← value_le_iff] at reached
      rw [abs_of_nonpos (by linarith)] at near
      rcases abs_cases (exact - below.value) with ⟨distance, -⟩ | ⟨distance, -⟩
      · linarith
      · linarith
    · have large := rounded.eq_infinity_iff.mp (eq_infinity_of_atMost upperFinite infinite reached)
      have small := absValue_lt_overflowThreshold upperFinite
      rw [← abs_value, abs_lt] at small
      linarith

end Rounds

end Binary

end Closeness
