import Closeness.Proofs.SumOrder
import Closeness.Proofs.Walk
import Closeness.Proofs.Widening

/-!
# Operations that keep the order

Rounding is monotone, so the operations that round once keep the order of
their operands.  Sums do so as long as they are numbers, products of numbers
that are not negative do, and so does conversion to another format, which may
turn many numbers into one and great ones into infinity.

The infinities are the ends of the order.  That takes care of sums in which
they occur: if the smaller sum is not `-∞` and the greater one is not `∞`, all
operands are finite.
-/

namespace Closeness

namespace Binary

variable {format : Format}

/-! ## The order and its ends -/

theorem isNaN_of_atMost
    {left right : Binary format}
    (ordered : left.atMost right = true) :
    left.isNaN = false ∧ right.isNaN = false := by
  simp only [atMost, Bool.and_eq_true, Bool.not_eq_true'] at ordered
  exact ordered.1

theorem position_le_of_atMost
    {left right : Binary format}
    (ordered : left.atMost right = true) :
    left.position ≤ right.position := by
  obtain ⟨leftNumber, rightNumber⟩ := isNaN_of_atMost ordered
  exact (atMost_iff leftNumber rightNumber).mp ordered

theorem position_eq_of_equals
    {left right : Binary format}
    (equal : left.equals right = true) :
    left.position = right.position := by
  rw [equals, Bool.and_eq_true, beq_iff_eq] at equal
  exact equal.2

theorem atMost_trans
    {lower middle upper : Binary format}
    (below : lower.atMost middle = true)
    (above : middle.atMost upper = true) :
    lower.atMost upper = true := by
  apply (atMost_iff (isNaN_of_atMost below).1 (isNaN_of_atMost above).2).mpr
  exact (position_le_of_atMost below).trans (position_le_of_atMost above)

/-- No other number has the position of an infinity. -/
theorem eq_infinity_of_position
    {number : Binary format}
    {negative : Bool}
    (atEnd : number.position = (infinity negative : Binary format).position) :
    number = infinity negative := by
  have positive := format.infinityCode_pos
  apply eq_of_position_eq atEnd
  rw [atEnd, position_infinity]
  split <;> omega

theorem infinity_atMost
    {number : Binary format}
    (someNumber : number.isNaN = false) :
    (infinity true).atMost number = true := by
  have bound := position_le_infinityCode someNumber
  apply (atMost_iff (isNaN_of_isInfinite (isInfinite_infinity true)) someNumber).mpr
  rw [position_infinity, if_pos rfl]
  omega

theorem atMost_infinity
    {number : Binary format}
    (someNumber : number.isNaN = false) :
    number.atMost (infinity false) = true := by
  have bound := position_le_infinityCode someNumber
  apply (atMost_iff someNumber (isNaN_of_isInfinite (isInfinite_infinity false))).mpr
  rw [position_infinity, if_neg (by decide)]
  omega

/-- Nothing is below `-∞`. -/
theorem eq_infinity_of_atMost_infinity
    {number : Binary format}
    (below : number.atMost (infinity true) = true) :
    number = infinity true := by
  apply eq_infinity_of_position
  apply Int.le_antisymm
  · exact position_le_of_atMost below
  · exact position_le_of_atMost (infinity_atMost (isNaN_of_atMost below).1)

/-- Nothing is above `∞`. -/
theorem eq_infinity_of_infinity_atMost
    {number : Binary format}
    (above : (infinity false).atMost number = true) :
    number = infinity false := by
  apply eq_infinity_of_position
  apply Int.le_antisymm
  · exact position_le_of_atMost (atMost_infinity (isNaN_of_atMost above).2)
  · exact position_le_of_atMost above

/-- Ordered numbers are finite if the smaller one is not `-∞` and the greater one is not `∞`. -/
theorem isFinite_of_atMost
    {left right : Binary format}
    (ordered : left.atMost right = true)
    (leftInside : left ≠ infinity true)
    (rightInside : right ≠ infinity false) :
    left.isFinite = true ∧ right.isFinite = true := by
  obtain ⟨leftNumber, rightNumber⟩ := isNaN_of_atMost ordered
  constructor
  · rcases isFinite_or_isInfinite leftNumber with finite | infinite
    · exact finite
    · exfalso
      have same := infinity_of_isInfinite infinite
      cases sign : left.negative with
      | true =>
          rw [sign] at same
          exact leftInside same.symm
      | false =>
          rw [sign] at same
          rw [← same] at ordered
          exact rightInside (eq_infinity_of_infinity_atMost ordered)
  · rcases isFinite_or_isInfinite rightNumber with finite | infinite
    · exact finite
    · exfalso
      have same := infinity_of_isInfinite infinite
      cases sign : right.negative with
      | true =>
          rw [sign] at same
          rw [← same] at ordered
          exact leftInside (eq_infinity_of_atMost_infinity ordered)
      | false =>
          rw [sign] at same
          exact rightInside same.symm

/-! ## Sums -/

theorem units_le_of_atMost
    {left right : Binary format}
    (ordered : left.atMost right = true) :
    left.units ≤ right.units := by
  rw [units_eq_unitsAt, units_eq_unitsAt]
  exact format.unitsAt_strictMono.monotone (position_le_of_atMost ordered)

theorem isNaN_of_isNaN_add
    {left right : Binary format}
    (sum : (left + right).isNaN = false) :
    left.isNaN = false ∧ right.isNaN = false := by
  rw [← Bool.not_eq_true, ← Bool.not_eq_true, ← not_or]
  intro noNumber
  rw [add_of_isNaN noNumber, isNaN_nan] at sum
  cases sum

/-- Numbers have a sum unless they are opposite infinities. -/
theorem isNaN_add_eq_false
    {left right : Binary format}
    (leftNumber : left.isNaN = false)
    (rightNumber : right.isNaN = false)
    (agree : left.isInfinite = true → right.isInfinite = true → left.negative = right.negative) :
    (left + right).isNaN = false := by
  rcases isFinite_or_isInfinite leftNumber with leftFinite | leftInfinite
  · rcases isFinite_or_isInfinite rightNumber with rightFinite | rightInfinite
    · rw [add_of_isFinite leftFinite rightFinite]
      exact isNaN_ofUnits ..
    · rw [add_of_isInfinite_right leftFinite rightInfinite]
      exact rightNumber
  · rw [add_of_isInfinite_left leftInfinite rightNumber (agree leftInfinite)]
    exact leftNumber

/-- A sum with an infinity is that infinity, if it is a number. -/
theorem add_eq_infinity
    {left right : Binary format}
    {negative : Bool}
    (unbounded : left = infinity negative ∨ right = infinity negative)
    (sum : (left + right).isNaN = false) :
    left + right = infinity negative := by
  obtain ⟨leftNumber, rightNumber⟩ := isNaN_of_isNaN_add sum
  have agree : left.isInfinite = true → right.isInfinite = true →
      left.negative = right.negative := by
    intro leftInfinite rightInfinite
    by_contra opposite
    rw [isNaN_add_of_opposite leftInfinite rightInfinite opposite] at sum
    cases sum
  rcases isFinite_or_isInfinite leftNumber with leftFinite | leftInfinite
  · rcases unbounded with rfl | rfl
    · rw [isFinite_of_isInfinite (isInfinite_infinity negative)] at leftFinite
      cases leftFinite
    · exact add_of_isInfinite_right leftFinite (isInfinite_infinity negative)
  · rw [add_of_isInfinite_left leftInfinite rightNumber (agree leftInfinite)]
    rcases unbounded with rfl | rfl
    · rfl
    · have signs := agree leftInfinite (isInfinite_infinity negative)
      rw [← infinity_of_isInfinite leftInfinite, signs]
      rfl

/-- Sums that are numbers are ordered like their operands. -/
theorem add_atMost_add
    {left right left' right' : Binary format}
    (leftOrdered : left.atMost left' = true)
    (rightOrdered : right.atMost right' = true)
    (sum : (left + right).isNaN = false)
    (sum' : (left' + right').isNaN = false) :
    (left + right).atMost (left' + right') = true := by
  by_cases lowest : left = infinity true ∨ right = infinity true
  · rw [add_eq_infinity lowest sum]
    exact infinity_atMost sum'
  · by_cases highest : left' = infinity false ∨ right' = infinity false
    · rw [add_eq_infinity highest sum']
      exact atMost_infinity sum
    · rw [not_or] at lowest highest
      obtain ⟨leftFinite, leftFinite'⟩ := isFinite_of_atMost leftOrdered lowest.1 highest.1
      obtain ⟨rightFinite, rightFinite'⟩ := isFinite_of_atMost rightOrdered lowest.2 highest.2
      have leftUnits := units_le_of_atMost leftOrdered
      have rightUnits := units_le_of_atMost rightOrdered
      rw [add_of_isFinite leftFinite rightFinite, add_of_isFinite leftFinite' rightFinite']
      apply (atMost_iff (isNaN_ofUnits ..) (isNaN_ofUnits ..)).mpr
      exact position_ofUnits_mono (Int.add_le_add leftUnits rightUnits) ..

/-- Next to a number that is not negative, a greater number has a greater sum. -/
theorem add_atMost_add_right
    {left left' right : Binary format}
    (ordered : left.atMost left' = true)
    (nonneg : (zero false).atMost right = true)
    (sum : (left + right).isNaN = false) :
    (left + right).atMost (left' + right) = true := by
  have rightNumber := isNaN_of_zero_atMost nonneg
  apply add_atMost_add ordered (atMost_self rightNumber) sum
  apply isNaN_add_eq_false (isNaN_of_atMost ordered).2 rightNumber
  intro leftInfinite' rightInfinite
  have rightSign := negative_eq_false_of_isInfinite rightInfinite nonneg
  by_contra opposite
  -- A greater number that is `-∞` is the same number, so it has the same sum.
  have lowest : left' = infinity true := by
    rw [rightSign, Bool.not_eq_false] at opposite
    rw [← infinity_of_isInfinite leftInfinite', opposite]
  rw [lowest] at ordered opposite
  rw [eq_infinity_of_atMost_infinity ordered,
    isNaN_add_of_opposite (isInfinite_infinity true) rightInfinite opposite] at sum
  cases sum

/-- A greater finite number adds to a greater sum. -/
theorem add_atMost_add_left
    {left right right' : Binary format}
    (ordered : right.atMost right' = true)
    (finite : right'.isFinite = true)
    (sum : (left + right).isNaN = false) :
    (left + right).atMost (left + right') = true := by
  have leftNumber := (isNaN_of_isNaN_add sum).1
  apply add_atMost_add (atMost_self leftNumber) ordered sum
  apply isNaN_add_eq_false leftNumber (isNaN_of_isFinite finite)
  intro _ rightInfinite'
  rw [isInfinite_of_isFinite finite] at rightInfinite'
  cases rightInfinite'

/-! ## Products -/

/-- Numbers that are not negative are ordered like their codes. -/
theorem position_of_zero_atMost
    {number : Binary format}
    (nonneg : (zero false).atMost number = true) :
    number.position = number.code := by
  rw [position]
  split
  · next negative =>
    rw [code_eq_zero_of_negative nonneg negative]
    rfl
  · rfl

theorem atMost_iff_code
    {left right : Binary format}
    (leftNonneg : (zero false).atMost left = true)
    (rightNonneg : (zero false).atMost right = true) :
    left.atMost right = true ↔ left.code ≤ right.code := by
  rw [atMost_iff (isNaN_of_zero_atMost leftNonneg) (isNaN_of_zero_atMost rightNonneg),
    position_of_zero_atMost leftNonneg, position_of_zero_atMost rightNonneg]
  exact Int.ofNat_le

/-- Products of finite numbers that are not negative are ordered like their first factors. -/
theorem mul_atMost_mul
    {left left' right : Binary format}
    (ordered : left.atMost left' = true)
    (nonneg : (zero false).atMost left = true)
    (finite : left'.isFinite = true)
    (rightNonneg : (zero false).atMost right = true)
    (rightFinite : right.isFinite = true) :
    (left * right).atMost (left' * right) = true := by
  have nonneg' := atMost_trans nonneg ordered
  have codes : left.code ≤ left'.code := (atMost_iff_code nonneg nonneg').mp ordered
  have leftFinite : left.isFinite = true :=
    isFinite_iff.mpr (codes.trans_lt (isFinite_iff.mp finite))
  have product := zero_atMost_mul_of_isFinite leftFinite rightFinite nonneg rightNonneg
  have product' := zero_atMost_mul_of_isFinite finite rightFinite nonneg' rightNonneg
  apply (atMost_iff_code product product').mpr
  rw [mul_of_isFinite leftFinite rightFinite, mul_of_isFinite finite rightFinite]
  apply format.nearestCode_mono format.unitsOfOne_pos format.unitsOfOne_pos
  have magnitudes : left.magnitude ≤ left'.magnitude :=
    format.unitsOfCode_strictMono.monotone codes
  exact Nat.mul_le_mul_right _ (Nat.mul_le_mul_right _ magnitudes)

/-- A fraction of a finite number is finite. -/
theorem code_mul_le
    {fraction number : Binary format}
    (fractionFinite : fraction.isFinite = true)
    (finite : number.isFinite = true)
    (small : fraction.magnitude ≤ format.unitsOfOne) :
    (fraction * number).code ≤ number.code := by
  have inRange := Nat.le_of_lt (isFinite_iff.mp finite)
  rw [mul_of_isFinite fractionFinite finite]
  calc
    format.nearestCode (fraction.magnitude * number.magnitude) format.unitsOfOne ≤
        format.nearestCode number.magnitude 1 := by
      apply format.nearestCode_mono format.unitsOfOne_pos Nat.one_pos
      rw [Nat.mul_one, Nat.mul_comm number.magnitude]
      exact Nat.mul_le_mul_right _ small
    _ = number.code := format.nearestCode_unitsOfCode inRange

/-! ## Conversion -/

variable {source : Format}

theorem code_convert_mono
    (target : Format)
    {left right : Binary source}
    (rightNumber : right.isNaN = false)
    (ordered : left.code ≤ right.code) :
    (left.convert target).code ≤ (right.convert target).code := by
  have leftNumber : left.isNaN = false := by
    rw [← Bool.not_eq_true, isNaN_iff]
    have bound := code_le_infinityCode rightNumber
    omega
  rcases isFinite_or_isInfinite rightNumber with rightFinite | rightInfinite
  · have leftFinite : left.isFinite = true :=
      isFinite_iff.mpr (ordered.trans_lt (isFinite_iff.mp rightFinite))
    have magnitudes : left.magnitude ≤ right.magnitude :=
      source.unitsOfCode_strictMono.monotone ordered
    rw [convert_of_isFinite leftFinite, convert_of_isFinite rightFinite]
    apply target.nearestCode_mono source.unitsOfOne_pos source.unitsOfOne_pos
    exact Nat.mul_le_mul_right _ (Nat.mul_le_mul_right _ magnitudes)
  · rw [convert_of_isInfinite rightInfinite]
    apply code_le_infinityCode
    rw [isNaN_convert, leftNumber]

/-- Conversion keeps the order, though numbers may become equal. -/
theorem convert_atMost_convert
    (target : Format)
    {left right : Binary source}
    (ordered : left.atMost right = true) :
    (left.convert target).atMost (right.convert target) = true := by
  obtain ⟨leftNumber, rightNumber⟩ := isNaN_of_atMost ordered
  have positions := position_le_of_atMost ordered
  have leftConverts : (left.convert target).isNaN = false := by
    rw [isNaN_convert, leftNumber]
  have rightConverts : (right.convert target).isNaN = false := by
    rw [isNaN_convert, rightNumber]
  apply (atMost_iff leftConverts rightConverts).mpr
  rw [position, position, negative_convert, negative_convert]
  rw [position, position] at positions
  cases leftSign : left.negative <;> cases rightSign : right.negative <;>
    simp only [leftSign, rightSign, if_true, Bool.false_eq_true, if_false] at positions ⊢
  · exact Int.ofNat_le.mpr (code_convert_mono target rightNumber (Int.ofNat_le.mp positions))
  · have leftZero : left.code = 0 := by omega
    have rightZero : right.code = 0 := by omega
    rw [code_convert_of_zero leftZero, code_convert_of_zero rightZero]
    decide
  · omega
  · apply Int.neg_le_neg
    exact Int.ofNat_le.mpr (code_convert_mono target leftNumber (by omega))

end Binary

/-- Rounding to a width keeps the order. -/
theorem Width.round_atMost_round
    (width : Width)
    {left right : Double}
    (ordered : left.atMost right = true) :
    (width.round left).atMost (width.round right) = true := by
  cases width with
  | single => exact Binary.convert_atMost_convert .binary32 ordered
  | double => exact ordered

end Closeness
