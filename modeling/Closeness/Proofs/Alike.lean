import Closeness.Proofs.Acceptance
import Closeness.Proofs.Monotonicity
import Closeness.Proofs.Symmetry

/-!
# Numbers that comparisons do not tell apart

No comparison tells the two zeros apart, nor one NaN from another.  Numbers
that are alike in this sense may have patterns that are far apart, yet sums,
products and conversions of alike numbers are alike.  Equality of policies
compares their fields numerically, so equal policies have alike fields, and
they give every candidate one answer.

The NaNs are alike in being refused: whatever margin is in use, a comparison
with NaN is false, and steps are counted between numbers only.
-/

namespace Closeness

open Binary

namespace Binary

variable {format : Format}

/-- The same number, two zeros, or two NaNs. -/
inductive Alike : Binary format → Binary format → Prop where
  | same (number : Binary format) : Alike number number
  | zeros {left right : Binary format}
      (leftZero : left.isZero = true)
      (rightZero : right.isZero = true) :
      Alike left right
  | nans {left right : Binary format}
      (leftNoNumber : left.isNaN = true)
      (rightNoNumber : right.isNaN = true) :
      Alike left right

theorem isFinite_of_isZero
    {number : Binary format}
    (isZero : number.isZero = true) :
    number.isFinite = true := by
  rw [isFinite_iff_position, isZero_iff.mp isZero]
  exact format.infinityCode_pos

/-- Numerically equal numbers are alike. -/
theorem alike_of_equals
    {left right : Binary format}
    (equal : left.equals right = true) :
    left.Alike right := by
  have positions := position_eq_of_equals equal
  by_cases leftZero : left.isZero = true
  · apply Alike.zeros leftZero
    rw [isZero_iff, ← positions, ← isZero_iff, leftZero]
  · rw [isZero_iff] at leftZero
    rw [eq_of_position_eq positions leftZero]
    exact .same right

theorem alike_of_atMost
    {left right : Binary format}
    (below : left.atMost right = true)
    (above : right.atMost left = true) :
    left.Alike right := by
  apply alike_of_equals
  rw [equals_eq_atMost_and_atMost, below, above]
  rfl

namespace Alike

variable {left right left' right' : Binary format}

theorem symm
    (alike : left.Alike right) :
    right.Alike left := by
  cases alike with
  | same => exact .same left
  | zeros leftZero rightZero => exact .zeros rightZero leftZero
  | nans leftNoNumber rightNoNumber => exact .nans rightNoNumber leftNoNumber

theorem isNaN_eq
    (alike : left.Alike right) :
    left.isNaN = right.isNaN := by
  cases alike with
  | same => rfl
  | zeros leftZero rightZero => rw [isNaN_of_isZero leftZero, isNaN_of_isZero rightZero]
  | nans leftNoNumber rightNoNumber => rw [leftNoNumber, rightNoNumber]

theorem position_eq
    (alike : left.Alike right)
    (someNumber : left.isNaN = false) :
    left.position = right.position := by
  cases alike with
  | same => rfl
  | zeros leftZero rightZero => rw [isZero_iff.mp leftZero, isZero_iff.mp rightZero]
  | nans leftNoNumber =>
    rw [leftNoNumber] at someNumber
    cases someNumber

theorem eq_of_isInfinite
    (alike : left.Alike right)
    (infinite : left.isInfinite = true) :
    left = right := by
  cases alike with
  | same => rfl
  | zeros leftZero =>
    rw [isInfinite_of_isFinite (isFinite_of_isZero leftZero)] at infinite
    cases infinite
  | nans leftNoNumber =>
    rw [isNaN_of_isInfinite infinite] at leftNoNumber
    cases leftNoNumber

/-! ### Comparisons -/

theorem atMost
    (alike : left.Alike right)
    (someNumber : left.isNaN = false) :
    left.atMost right = true := by
  apply (atMost_iff someNumber (alike.isNaN_eq.symm.trans someNumber)).mpr
  exact (alike.position_eq someNumber).le

theorem atMost_eq
    (lefts : left.Alike left')
    (rights : right.Alike right') :
    left.atMost right = left'.atMost right' := by
  rw [Binary.atMost, Binary.atMost, ← lefts.isNaN_eq, ← rights.isNaN_eq]
  cases leftNumber : left.isNaN with
  | true => rfl
  | false =>
    cases rightNumber : right.isNaN with
    | true => rfl
    | false => rw [lefts.position_eq leftNumber, rights.position_eq rightNumber]

theorem isFinite_eq
    (alike : left.Alike right) :
    left.isFinite = right.isFinite := by
  cases alike with
  | same => rfl
  | zeros leftZero rightZero => rw [isFinite_of_isZero leftZero, isFinite_of_isZero rightZero]
  | nans leftNoNumber rightNoNumber =>
    rw [Binary.isFinite_eq, Binary.isFinite_eq, leftNoNumber, rightNoNumber]
    rfl

theorem isInfinite_eq
    (alike : left.Alike right) :
    left.isInfinite = right.isInfinite := by
  rw [Binary.isInfinite_eq, Binary.isInfinite_eq, alike.isNaN_eq, alike.isFinite_eq]

theorem withinUlps_eq
    (alike : right.Alike right')
    (limit : Nat)
    (left : Binary format) :
    left.withinUlps limit right = left.withinUlps limit right' := by
  by_cases finites : left.isFinite = true ∧ right.isFinite = true
  · obtain ⟨leftFinite, rightFinite⟩ := finites
    have rightFinite' : right'.isFinite = true := by
      rw [← alike.isFinite_eq, rightFinite]
    rw [Bool.eq_iff_iff, withinUlps_of_isFinite limit leftFinite rightFinite,
      withinUlps_of_isFinite limit leftFinite rightFinite',
      alike.position_eq (isNaN_of_isFinite rightFinite)]
  · have finites' : ¬ (left.isFinite = true ∧ right'.isFinite = true) := by
      rw [← alike.isFinite_eq]
      exact finites
    rw [withinUlps_of_unbounded limit finites, withinUlps_of_unbounded limit finites',
      equals_eq_atMost_and_atMost, equals_eq_atMost_and_atMost,
      (same left).atMost_eq alike, alike.atMost_eq (same left)]

/-! ### Arithmetic -/

theorem isNaN_add
    (lefts : left.Alike left')
    (rights : right.Alike right')
    (noSum : (left + right).isNaN = true) :
    (left' + right').isNaN = true := by
  by_contra sum
  rw [Bool.not_eq_true] at sum
  obtain ⟨leftNumber', rightNumber'⟩ := isNaN_of_isNaN_add sum
  have leftNumber := lefts.isNaN_eq.trans leftNumber'
  have rightNumber := rights.isNaN_eq.trans rightNumber'
  by_cases unbounded : left.isInfinite = true ∧ right.isInfinite = true
  · rw [lefts.eq_of_isInfinite unbounded.1, rights.eq_of_isInfinite unbounded.2, sum] at noSum
    cases noSum
  · have someSum : (left + right).isNaN = false := by
      apply isNaN_add_eq_false leftNumber rightNumber
      intro leftInfinite rightInfinite
      exact absurd ⟨leftInfinite, rightInfinite⟩ unbounded
    rw [someSum] at noSum
    cases noSum

/-- Sums of alike numbers are alike. -/
theorem add
    (lefts : left.Alike left')
    (rights : right.Alike right') :
    (left + right).Alike (left' + right') := by
  by_cases noSum : (left + right).isNaN = true
  · exact .nans noSum (lefts.isNaN_add rights noSum)
  · rw [Bool.not_eq_true] at noSum
    have noSum' : (left' + right').isNaN = false := by
      rw [← Bool.not_eq_true]
      intro isNaN
      rw [lefts.symm.isNaN_add rights.symm isNaN] at noSum
      cases noSum
    obtain ⟨leftNumber, rightNumber⟩ := isNaN_of_isNaN_add noSum
    obtain ⟨leftNumber', rightNumber'⟩ := isNaN_of_isNaN_add noSum'
    apply alike_of_atMost
    · exact add_atMost_add (lefts.atMost leftNumber) (rights.atMost rightNumber) noSum noSum'
    · exact
        add_atMost_add (lefts.symm.atMost leftNumber') (rights.symm.atMost rightNumber')
          noSum' noSum

/-- The product of a zero and a finite number is a zero. -/
theorem isZero_mul
    {left right : Binary format}
    (leftZero : left.isZero = true)
    (rightFinite : right.isFinite = true) :
    (left * right).isZero = true := by
  have magnitude : left.magnitude = 0 := by
    rw [Binary.magnitude, ← natAbs_position, isZero_iff.mp leftZero]
    exact format.unitsOfCode_zero
  rw [mul_of_isFinite (isFinite_of_isZero leftZero) rightFinite, magnitude, Nat.zero_mul,
    isZero, beq_iff_eq]
  exact format.nearestCode_zero _

/-- Products of alike numbers with one number are alike. -/
theorem mul
    (lefts : left.Alike left')
    (right : Binary format) :
    (left * right).Alike (left' * right) := by
  cases lefts with
  | same => exact .same _
  | nans leftNoNumber leftNoNumber' =>
    rw [mul_of_isNaN (Or.inl leftNoNumber), mul_of_isNaN (Or.inl leftNoNumber')]
    exact .same _
  | zeros leftZero leftZero' =>
    by_cases noNumber : right.isNaN = true
    · rw [mul_of_isNaN (Or.inr noNumber), mul_of_isNaN (Or.inr noNumber)]
      exact .same _
    · rw [Bool.not_eq_true] at noNumber
      rcases isFinite_or_isInfinite noNumber with finite | infinite
      · exact .zeros (isZero_mul leftZero finite) (isZero_mul leftZero' finite)
      · exact
          .nans (isNaN_mul_of_zero_of_infinite leftZero infinite)
            (isNaN_mul_of_zero_of_infinite leftZero' infinite)

/-- The sign of a zero is no part of its magnitude, and NaN is not the greater of two. -/
theorem greater_abs_eq
    (alike : left.Alike right)
    (number : Binary format) :
    number.abs.greater left.abs = number.abs.greater right.abs := by
  cases alike with
  | same => rfl
  | zeros leftZero rightZero =>
    rw [← zero_of_isZero leftZero, ← zero_of_isZero rightZero]
    rfl
  | nans leftNoNumber rightNoNumber =>
    have leftMagnitude : left.abs.isNaN = true := leftNoNumber
    have rightMagnitude : right.abs.isNaN = true := rightNoNumber
    simp [greater, below, leftMagnitude, rightMagnitude]

/-- Conversion of alike numbers gives alike numbers. -/
theorem convert
    (alike : left.Alike right)
    (target : Format) :
    (left.convert target).Alike (right.convert target) := by
  by_cases noNumber : left.isNaN = true
  · have noNumber' := alike.isNaN_eq.symm.trans noNumber
    apply nans
    · rw [isNaN_convert, noNumber]
    · rw [isNaN_convert, noNumber']
  · rw [Bool.not_eq_true] at noNumber
    have noNumber' := alike.isNaN_eq.symm.trans noNumber
    apply alike_of_atMost
    · exact convert_atMost_convert target (alike.atMost noNumber)
    · exact convert_atMost_convert target (alike.symm.atMost noNumber')

theorem withinMargin_eq
    {margin margin' : Binary format}
    (lefts : left.Alike left')
    (rights : right.Alike right')
    (margins : margin.Alike margin') :
    left.withinMargin right margin = left'.withinMargin right' margin' := by
  rw [withinMargin, withinMargin, rights.atMost_eq (lefts.add margins),
    lefts.atMost_eq (rights.add margins)]

end Alike

end Binary

theorem Width.round_alike_round
    (width : Width)
    {left right : Double}
    (alike : left.Alike right) :
    (width.round left).Alike (width.round right) := by
  cases width with
  | single => exact alike.convert .binary32
  | double => exact alike

namespace Tolerance

/-- Alike fractions and targets lead to alike margins in use. -/
theorem effectiveMargin_alike
    {fraction fraction' target target' : Double}
    (fractions : fraction.Alike fraction')
    (targets : target.Alike target')
    (candidate : Double) :
    (effectiveMargin fraction target candidate).Alike
      (effectiveMargin fraction' target' candidate) := by
  have margins :
      (relativeMargin fraction target candidate).Alike
        (relativeMargin fraction' target' candidate) := by
    rw [relativeMargin, relativeMargin, targets.greater_abs_eq]
    exact fractions.mul _
  have overflows := margins.isInfinite_eq
  rw [effectiveMargin, effectiveMargin, ← overflows]
  split
  · exact .same _
  · exact margins

end Tolerance

namespace Policy

variable {left right policy : Policy}

/-- Alike targets and equal tolerances lead to the same answers. -/
theorem accepts_eq_of_alike
    (targets : left.target.Alike right.target)
    (tolerances : left.tolerance.equals right.tolerance = true)
    (candidate : Double) :
    left.accepts candidate = right.accepts candidate := by
  obtain ⟨target, tolerance⟩ := left
  obtain ⟨target', tolerance'⟩ := right
  cases tolerance with
  | margin bound =>
    cases tolerance' with
    | margin bound' =>
      exact (Alike.same candidate).withinMargin_eq targets (alike_of_equals tolerances)
    | epsilon => cases tolerances
    | ulps => cases tolerances
  | epsilon fraction =>
    cases tolerance' with
    | margin => cases tolerances
    | epsilon fraction' =>
      apply (Alike.same candidate).withinMargin_eq targets
      exact Tolerance.effectiveMargin_alike (alike_of_equals tolerances) targets candidate
    | ulps => cases tolerances
  | ulps count width =>
    cases tolerance' with
    | margin => cases tolerances
    | epsilon => cases tolerances
    | ulps count' width' =>
      rw [Tolerance.equals, Bool.and_eq_true, beq_iff_eq, beq_iff_eq] at tolerances
      obtain ⟨rfl, rfl⟩ := tolerances
      exact (width.round_alike_round targets).withinUlps_eq count (width.round candidate)

/--
Equal policies give every value the same answer, or refuse it with the same
fault.  Policies that share their target count as equal even if it is NaN.
-/
theorem outcome_eq_of_equals
    (same :
      left.equals right = true ∨
        left.target = right.target ∧ left.tolerance.equals right.tolerance = true)
    (candidate : Value) :
    (left.acceptsValue candidate).outcome = (right.acceptsValue candidate).outcome := by
  have answers : left.accepts = right.accepts := by
    funext number
    rcases same with equal | ⟨sameTarget, tolerances⟩
    · rw [equals, Bool.and_eq_true] at equal
      exact accepts_eq_of_alike (alike_of_equals equal.1) equal.2 number
    · apply accepts_eq_of_alike _ tolerances number
      rw [sameTarget]
      exact .same _
  rw [outcome_acceptsValue, outcome_acceptsValue, answers]

/-- Targets that are zeros of different signs, whose patterns are far apart. -/
theorem outcome_eq_of_equals_of_zeros :
    equals ⟨zero true, .ulps 1 .single⟩ ⟨zero false, .ulps 1 .single⟩ = true ∧
      (acceptsValue ⟨zero true, .ulps 1 .single⟩
          (.leaf (.double Width.single.least))).outcome =
        (acceptsValue ⟨zero false, .ulps 1 .single⟩
          (.leaf (.double Width.single.least))).outcome := by
  have equal :
      equals ⟨zero true, .ulps 1 .single⟩ ⟨zero false, .ulps 1 .single⟩ = true := by
    decide
  exact ⟨equal, outcome_eq_of_equals (Or.inl equal) _⟩

theorem accepts_of_isNaN
    (policy : Policy)
    {candidate : Double}
    (noNumber : candidate.isNaN = true) :
    policy.accepts candidate = false := by
  obtain ⟨target, tolerance⟩ := policy
  cases tolerance with
  | margin bound => exact withinMargin_eq_false (Or.inl noNumber) bound
  | epsilon fraction => exact withinMargin_eq_false (Or.inl noNumber) _
  | ulps count width => exact width.withinUlps_of_isNaN count target noNumber

theorem accepts_of_isNaN_target
    (targetNoNumber : policy.target.isNaN = true)
    (candidate : Double) :
    policy.accepts candidate = false := by
  have swapped : policy.accepts candidate = accepts ⟨candidate, policy.tolerance⟩ policy.target :=
    accepts_comm policy.tolerance policy.target candidate
  rw [swapped]
  exact accepts_of_isNaN _ targetNoNumber

/--
A candidate that converts gets an answer.  The answer is no if it converts to
NaN or the target is NaN, and so nothing but a number is accepted, and only for
a target that is a number.
-/
theorem refuses_nan
    {candidate : Value}
    {number : Double}
    (converts : candidate.toDouble = .ok number) :
    (number.isNaN = true ∨ policy.target.isNaN = true →
        (policy.acceptsValue candidate).outcome = .ok false) ∧
      ((policy.acceptsValue candidate).outcome = .ok true →
        number.isNaN = false ∧ policy.target.isNaN = false) := by
  have refused : number.isNaN = true ∨ policy.target.isNaN = true →
      (policy.acceptsValue candidate).outcome = .ok false := by
    intro noNumber
    apply outcome_acceptsValue_eq_ok_iff.mpr
    refine ⟨number, converts, ?_⟩
    rcases noNumber with candidateNoNumber | targetNoNumber
    · exact accepts_of_isNaN policy candidateNoNumber
    · exact accepts_of_isNaN_target targetNoNumber number
  refine ⟨refused, ?_⟩
  intro accepted
  rw [← Bool.not_eq_true, ← Bool.not_eq_true, ← not_or]
  intro noNumber
  rw [refused noNumber] at accepted
  cases accepted

/-- The greatest count of steps, which no distance exceeds, between two NaNs. -/
theorem refuses_nan_of_greatest_count :
    Value.toDouble (.leaf (.double (nan true))) = .ok (nan true) ∧
      ((nan true : Double).isNaN = true ∨ (nan false : Double).isNaN = true →
          (acceptsValue ⟨nan false, .ulps Tolerance.ulpsMaximum .double⟩
            (.leaf (.double (nan true)))).outcome = .ok false) ∧
        ((acceptsValue ⟨nan false, .ulps Tolerance.ulpsMaximum .double⟩
            (.leaf (.double (nan true)))).outcome = .ok true →
          (nan true : Double).isNaN = false ∧ (nan false : Double).isNaN = false) :=
  ⟨rfl, @refuses_nan ⟨nan false, .ulps Tolerance.ulpsMaximum .double⟩ _ (nan true) rfl⟩

end Policy

end Closeness
