import Closeness.Proofs.SumOrder
import Closeness.Proofs.Walk
import Closeness.Session

/-!
# Validity of constructed policies

A construction with a result had a result at each of its steps, and the last
step is the check of the tolerance.  So the tolerance of every policy that a
recipe builds satisfies the conditions of its kind.  The checks compare
numbers of the format; `Tolerance.valid_iff_inRange` says in exact numbers
which tolerances pass them.
-/

namespace Closeness

namespace Logged

variable {α β : Type}

/-- Two operations in succession have a result if both do. -/
theorem outcome_bind_eq_ok_iff
    {first : Logged α}
    {second : α → Logged β}
    {result : β} :
    (first >>= second).outcome = .ok result ↔
      ∃ value, first.outcome = .ok value ∧ (second value).outcome = .ok result := by
  cases first_outcome : first.outcome with
  | error fault => simp [bind_of_error first_outcome]
  | ok value => simp [bind_of_ok first_outcome]

end Logged

namespace Binary

variable {format : Format}

theorem value_one :
    (ofInt 1 : Double).value = 1 := by
  have units : (ofInt 1 : Double).units = Format.binary64.unitsOfOne := by
    decide +kernel
  rw [value, units]
  exact div_self Format.binary64.unitsOfOne_pos_rat.ne'

/-- At least zero are infinity and the finite numbers whose value is not negative. -/
theorem zero_atMost_iff
    {number : Binary format} :
    (zero false).atMost number = true ↔
      number = infinity false ∨ number.isFinite = true ∧ 0 ≤ number.value := by
  constructor
  · intro nonneg
    have someNumber := isNaN_of_zero_atMost nonneg
    rcases isFinite_or_isInfinite someNumber with finite | infinite
    · rw [atMost_iff (isNaN_zero false) someNumber, ← value_le_iff, value_zero] at nonneg
      exact Or.inr ⟨finite, nonneg⟩
    · left
      rw [← infinity_of_isInfinite infinite, negative_eq_false_of_isInfinite infinite nonneg]
  · rintro (rfl | ⟨finite, nonneg⟩)
    · have someNumber := isNaN_of_isInfinite (@isInfinite_infinity format false)
      rw [atMost_iff (isNaN_zero false) someNumber, position_zero, position_infinity]
      exact Int.natCast_nonneg _
    · rwa [atMost_iff (isNaN_zero false) (isNaN_of_isFinite finite), ← value_le_iff, value_zero]

end Binary

namespace Tolerance

open Binary

/-- The range of a tolerance, in exact numbers. -/
def InRange : Tolerance → Prop
  | margin bound => bound = .infinity false ∨ bound.isFinite = true ∧ 0 ≤ bound.value
  | epsilon fraction => fraction.isFinite = true ∧ 0 ≤ fraction.value ∧ fraction.value < 1
  | ulps count width => count ≤ width.ulpsLimit

theorem isFinite_of_valid_epsilon
    {fraction : Double}
    (valid : (epsilon fraction).Valid) :
    fraction.isFinite = true := by
  obtain ⟨nonneg, small⟩ := valid
  have someNumber := isNaN_of_zero_atMost nonneg
  have oneBound := position_le_infinityCode (@isNaN_ofInt .binary64 1)
  rw [atMost_iff (isNaN_zero false) someNumber, position_zero] at nonneg
  rw [below_iff someNumber (isNaN_ofInt 1)] at small
  rw [isFinite_iff_position]
  omega

/-- The checks let exactly the tolerances in range pass. -/
theorem valid_iff_inRange
    {tolerance : Tolerance} :
    tolerance.Valid ↔ tolerance.InRange := by
  cases tolerance with
  | margin bound => exact zero_atMost_iff
  | epsilon fraction =>
    constructor
    · intro valid
      have finite := isFinite_of_valid_epsilon valid
      have someNumber := isNaN_of_isFinite finite
      obtain ⟨nonneg, small⟩ := valid
      rw [atMost_iff (isNaN_zero false) someNumber, ← value_le_iff, value_zero] at nonneg
      rw [below_iff someNumber (isNaN_ofInt 1), ← value_lt_iff, value_one] at small
      exact ⟨finite, nonneg, small⟩
    · rintro ⟨finite, nonneg, small⟩
      refine ⟨zero_atMost_iff.mpr (Or.inr ⟨finite, nonneg⟩), ?_⟩
      rwa [below_iff (isNaN_of_isFinite finite) (isNaN_ofInt 1), ← value_lt_iff, value_one]
  | ulps count width => exact Iff.rfl

theorem valid_ofMargin
    {margin : Double}
    {tolerance : Tolerance}
    (accepted : ofMargin margin = .ok tolerance) :
    tolerance.Valid := by
  unfold ofMargin at accepted
  split at accepted
  · next nonneg =>
    cases accepted
    exact nonneg
  · cases accepted

theorem valid_ofEpsilon
    {epsilon : Double}
    {tolerance : Tolerance}
    (accepted : ofEpsilon epsilon = .ok tolerance) :
    tolerance.Valid := by
  unfold ofEpsilon at accepted
  split at accepted
  · cases accepted
  · next nonneg =>
    split at accepted
    · cases accepted
    · next small =>
      cases accepted
      exact ⟨by simpa using nonneg, by simpa using small⟩

theorem valid_ofUlps
    {count : Int}
    {width : Width}
    {tolerance : Tolerance}
    (accepted : ofUlps count width = .ok tolerance) :
    tolerance.Valid := by
  unfold ofUlps at accepted
  split at accepted
  · obtain ⟨fault, refused⟩ := exists_refuseUlps_eq_error count
    rw [refused] at accepted
    cases accepted
  · next inRange =>
    split at accepted
    · cases accepted
    · next fits =>
      cases accepted
      show count.toNat ≤ width.ulpsLimit
      omega

end Tolerance

namespace Policy

/-- A checked policy has the tolerance that passed the check. -/
theorem tolerance_of_checked
    {target : Double}
    {check : Except Fault Tolerance}
    {policy : Policy}
    (built : (checked target check).outcome = .ok policy) :
    check = .ok policy.tolerance := by
  rw [outcome_checked] at built
  cases check with
  | error fault => cases built
  | ok tolerance =>
    cases built
    rfl

theorem valid_of_ulps
    {target count : Value}
    {width : WidthChoice}
    {policy : Policy}
    (built : (ulps target count width).outcome = .ok policy) :
    policy.tolerance.Valid := by
  simp only [ulps, Logged.outcome_bind_eq_ok_iff] at built
  obtain ⟨_, -, _, -, _, -, passed⟩ := built
  exact Tolerance.valid_ofUlps (tolerance_of_checked passed)

end Policy

/-- Every policy that is built has a valid tolerance. -/
theorem Recipe.valid_of_build
    {recipe : Recipe}
    {policy : Policy}
    (built : recipe.build.outcome = .ok policy) :
    policy.tolerance.Valid := by
  cases recipe with
  | absolute target margin =>
    simp only [build, Policy.absolute, Logged.outcome_bind_eq_ok_iff] at built
    obtain ⟨_, -, _, -, passed⟩ := built
    exact Tolerance.valid_ofMargin (Policy.tolerance_of_checked passed)
  | relative target epsilon =>
    simp only [build, Policy.relative, Logged.outcome_bind_eq_ok_iff] at built
    obtain ⟨_, -, _, -, passed⟩ := built
    exact Tolerance.valid_ofEpsilon (Policy.tolerance_of_checked passed)
  | ulps target count width =>
    exact Policy.valid_of_ulps built
  | nearRelative target epsilon width =>
    simp only [build, Policy.nearRelative, Logged.outcome_bind_eq_ok_iff] at built
    obtain ⟨_, -, _, -, _, -, passed⟩ := built
    exact Tolerance.valid_ofEpsilon (Policy.tolerance_of_checked passed)
  | nearUlps target count width =>
    simp only [build, Policy.nearUlps, Logged.outcome_bind_eq_ok_iff] at built
    obtain ⟨_, -, passed⟩ := built
    exact Policy.valid_of_ulps passed

end Closeness
