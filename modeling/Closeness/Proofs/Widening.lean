import Mathlib.Tactic.FieldSimp
import Closeness.Proofs.Nearest
import Closeness.Proofs.Value
import Closeness.Width

/-!
# Widening and rounding back

A format lies within another when its significands, its least magnitude and
its range do.  Then conversion to the wider format is exact: it keeps values,
the order of numbers and the infinities, and conversion back returns the
number itself.  The 32-bit layout lies within the 64-bit layout.

The last section carries this over to widths.  Rounding a double to a width
once more changes nothing, and the doubles that a width widens to are ordered
like its numbers.
-/

namespace Closeness

namespace Format

/-- Every finite magnitude of a format is one of another format. -/
structure Within (source target : Format) : Prop where
  hidden_le : source.hidden ≤ target.hidden
  scale_le : source.scale ≤ target.scale
  range_le :
    source.unitsOfCode source.infinityCode * 2 ^ (target.scale - source.scale) ≤
      target.unitsOfCode target.infinityCode

theorem binary32_within_binary64 :
    binary32.Within binary64 where
  hidden_le := by decide
  scale_le := by decide
  range_le := by decide +kernel

/-- Twice the range of a format fits into another one. -/
def RoomyIn (source target : Format) : Prop :=
  2 * (source.unitsOfCode source.infinityCode * 2 ^ (target.scale - source.scale)) ≤
    target.unitsOfCode target.infinityCode

theorem binary32_roomyIn_binary64 :
    binary32.RoomyIn binary64 := by
  unfold RoomyIn
  decide +kernel

/-- Small significands have a code at every shift. -/
theorem exists_unitsOfCode_eq
    (format : Format)
    {significand : Nat}
    (small : significand ≤ 2 * format.hidden)
    (shift : Nat) :
    ∃ code, format.unitsOfCode code = significand * 2 ^ shift := by
  induction shift generalizing significand with
  | zero =>
      exact ⟨_, format.unitsOfCode_shifted small (Or.inr rfl)⟩
  | succ shift ih =>
      rcases Nat.lt_or_ge significand format.hidden with subnormal | normal
      · have doubled : 2 * significand ≤ 2 * format.hidden := by omega
        obtain ⟨code, units⟩ := ih doubled
        refine ⟨code, ?_⟩
        rw [units]
        ring
      · exact ⟨_, format.unitsOfCode_shifted small (Or.inl normal)⟩

variable {source target : Format}

theorem Within.unitsOfOne_eq
    (within : source.Within target) :
    target.unitsOfOne =
      source.unitsOfOne * 2 ^ (target.scale - source.scale) := by
  have split : target.scale = source.scale + (target.scale - source.scale) := by
    have := within.scale_le
    omega
  rw [unitsOfOne, unitsOfOne, Nat.pow_eq, Nat.pow_eq, ← Nat.pow_add, ← split]

/-- A finite code of the narrower format has a finite counterpart in the wider one. -/
theorem Within.exists_code
    (within : source.Within target)
    {code : Nat}
    (finite : code < source.infinityCode) :
    ∃ wide < target.infinityCode,
      target.unitsOfCode wide =
        source.unitsOfCode code * 2 ^ (target.scale - source.scale) := by
  have significandBound :
      source.significandOf code ≤ 2 * target.hidden := by
    have inBinade := source.significandOf_lt code
    have hidden := within.hidden_le
    omega
  obtain ⟨wide, units⟩ :=
    target.exists_unitsOfCode_eq significandBound
      (source.binadeOf code + (target.scale - source.scale))
  have exact :
      target.unitsOfCode wide =
        source.unitsOfCode code * 2 ^ (target.scale - source.scale) := by
    rw [units, source.unitsOfCode_eq_significandOf_mul, spacing, Nat.pow_add]
    ring
  refine ⟨wide, ?_, exact⟩
  rw [← target.unitsOfCode_strictMono.lt_iff_lt, exact]
  exact
    lt_of_lt_of_le
      (Nat.mul_lt_mul_of_pos_right
        (source.unitsOfCode_strictMono finite) (Nat.two_pow_pos _))
      within.range_le

end Format

namespace Binary

variable {source target : Format}

theorem code_ofRatio
    {format : Format}
    (negative : Bool)
    (numerator denominator : Nat) :
    (ofRatio negative numerator denominator : Binary format).code =
      min (format.unboundedCode numerator denominator) format.infinityCode :=
  format.nearestCode_eq numerator denominator

theorem convert_of_isFinite
    {number : Binary source}
    (finite : number.isFinite = true) :
    number.convert target =
      ofRatio number.negative
        (number.magnitude * target.unitsOfOne) source.unitsOfOne := by
  rw [convert, if_neg (by simp [isNaN_of_isFinite finite]),
    if_neg (by simp [isInfinite_of_isFinite finite])]

theorem convert_of_isInfinite
    {number : Binary source}
    (infinite : number.isInfinite = true) :
    number.convert target = infinity number.negative := by
  rw [convert, if_neg (by simp [isNaN_of_isInfinite infinite]), if_pos infinite]

/-- Conversion finds a magnitude that the target has as well. -/
theorem code_convert_eq
    {number : Binary source}
    {code : Nat}
    (finite : number.isFinite = true)
    (inRange : code ≤ target.infinityCode)
    (exact :
      (target.unitsOfCode code : ℚ) * source.unitsOfOne =
        number.magnitude * target.unitsOfOne) :
    (number.convert target).code = code := by
  have unitPositive := source.unitsOfOne_pos_rat
  have selected :
      target.unboundedCode
        (number.magnitude * target.unitsOfOne) source.unitsOfOne = code := by
    apply target.unboundedCode_unitsOfCode source.unitsOfOne_pos
    rw [div_eq_iff unitPositive.ne', exact]
    push_cast
    rfl
  rw [convert_of_isFinite finite, code_ofRatio, selected, min_eq_left inRange]

theorem code_convert_of_zero
    {number : Binary source}
    (zeroCode : number.code = 0) :
    (number.convert target).code = 0 := by
  have finite : number.isFinite = true :=
    isFinite_iff.mpr (zeroCode ▸ source.infinityCode_pos)
  apply code_convert_eq finite (Nat.zero_le _)
  simp [magnitude, zeroCode]

/-- Equal numbers are those of which each is at most the other. -/
theorem equals_eq_atMost_and_atMost
    {format : Format}
    (left right : Binary format) :
    left.equals right = (left.atMost right && right.atMost left) := by
  rw [Bool.eq_iff_iff]
  simp only [equals, atMost, Bool.and_eq_true, beq_iff_eq, decide_eq_true_eq]
  constructor
  · rintro ⟨⟨leftNumber, rightNumber⟩, same⟩
    exact ⟨⟨⟨leftNumber, rightNumber⟩, same.le⟩, ⟨rightNumber, leftNumber⟩, same.ge⟩
  · rintro ⟨⟨⟨leftNumber, rightNumber⟩, upper⟩, -, lower⟩
    exact ⟨⟨leftNumber, rightNumber⟩, Int.le_antisymm upper lower⟩

end Binary

open Binary

namespace Format.Within

variable {source target : Format}

theorem magnitude_convert
    (within : source.Within target)
    {number : Binary source}
    (finite : number.isFinite = true) :
    (number.convert target).isFinite = true ∧
      (number.convert target).magnitude =
        number.magnitude * 2 ^ (target.scale - source.scale) := by
  obtain ⟨wide, short, units⟩ := within.exists_code (isFinite_iff.mp finite)
  have found : (number.convert target).code = wide := by
    apply code_convert_eq finite (Nat.le_of_lt short)
    rw [units, within.unitsOfOne_eq, magnitude]
    push_cast
    ring
  constructor
  · rw [isFinite_iff, found]
    exact short
  · rw [magnitude, found, units, magnitude]

theorem isFinite_convert
    (within : source.Within target)
    {number : Binary source}
    (someNumber : number.isNaN = false) :
    (number.convert target).isFinite = number.isFinite := by
  rcases isFinite_or_isInfinite someNumber with finite | infinite
  · rw [finite]
    exact (within.magnitude_convert finite).1
  · rw [isFinite_of_isInfinite infinite, convert_of_isInfinite infinite]
    exact decide_eq_false (Nat.lt_irrefl _)

/-- A wider format has the same values. -/
theorem value_convert
    (within : source.Within target)
    {number : Binary source}
    (finite : number.isFinite = true) :
    (number.convert target).value = number.value := by
  have magnitudes := (within.magnitude_convert finite).2
  have unitPositive := source.unitsOfOne_pos_rat
  have shiftPositive : (0 : ℚ) < 2 ^ (target.scale - source.scale) := by
    positivity
  rw [value, value, units, units, negative_convert, magnitudes, within.unitsOfOne_eq]
  split
  · push_cast
    field_simp
  · push_cast
    field_simp

/-- Conversion back from a wider format returns the number. -/
theorem convert_convert
    (within : source.Within target)
    {number : Binary source}
    (someNumber : number.isNaN = false) :
    (number.convert target).convert source = number := by
  apply Binary.ext
  · rw [negative_convert, negative_convert]
  · rcases isFinite_or_isInfinite someNumber with finite | infinite
    · obtain ⟨wideFinite, magnitudes⟩ := within.magnitude_convert finite
      apply code_convert_eq wideFinite (Nat.le_of_lt (isFinite_iff.mp finite))
      rw [magnitudes, within.unitsOfOne_eq, magnitude]
      push_cast
      ring
    · rw [convert_of_isInfinite infinite,
        convert_of_isInfinite (isInfinite_infinity _)]
      exact (isInfinite_iff.mp infinite).symm

theorem code_convert_lt
    (within : source.Within target)
    {left right : Binary source}
    (someNumber : right.isNaN = false)
    (ordered : left.code < right.code) :
    (left.convert target).code < (right.convert target).code := by
  have rightBound : right.code ≤ source.infinityCode :=
    Nat.le_of_not_lt (decide_eq_false_iff_not.mp someNumber)
  have leftFinite : left.isFinite = true :=
    isFinite_iff.mpr (by omega)
  obtain ⟨leftWideFinite, leftMagnitude⟩ := within.magnitude_convert leftFinite
  rcases isFinite_or_isInfinite someNumber with finite | infinite
  · have rightMagnitude := (within.magnitude_convert finite).2
    rw [← target.unitsOfCode_strictMono.lt_iff_lt]
    change (left.convert target).magnitude < (right.convert target).magnitude
    rw [leftMagnitude, rightMagnitude]
    exact
      Nat.mul_lt_mul_of_pos_right
        (source.unitsOfCode_strictMono ordered) (Nat.two_pow_pos _)
  · rw [convert_of_isInfinite infinite]
    exact isFinite_iff.mp leftWideFinite

/-- Conversion to a wider format keeps the order, that of infinities included. -/
theorem position_convert_lt
    (within : source.Within target)
    {left right : Binary source}
    (leftNumber : left.isNaN = false)
    (rightNumber : right.isNaN = false)
    (ordered : left.position < right.position) :
    (left.convert target).position < (right.convert target).position := by
  have positiveCode : ∀ {number : Binary source}, number.isNaN = false →
      0 < number.code → 0 < (number.convert target).code := by
    intro number someNumber positive
    have fromZero : (zero false : Binary source).code < number.code := positive
    exact
      Nat.lt_of_le_of_lt (Nat.zero_le _)
        (within.code_convert_lt someNumber fromZero)
  cases leftSign : left.negative <;> cases rightSign : right.negative <;>
    simp only [position, negative_convert, leftSign, rightSign, if_true,
      Bool.false_eq_true, if_false] at ordered ⊢
  · have codes : left.code < right.code := by omega
    have wideCodes := within.code_convert_lt rightNumber codes
    omega
  · omega
  · rcases Nat.eq_zero_or_pos left.code with leftZero | leftAway
    · have rightAway : 0 < right.code := by omega
      have wideAway := positiveCode rightNumber rightAway
      omega
    · have wideAway := positiveCode leftNumber leftAway
      omega
  · have codes : right.code < left.code := by omega
    have wideCodes := within.code_convert_lt leftNumber codes
    omega

theorem position_convert_le_iff
    (within : source.Within target)
    {left right : Binary source}
    (leftNumber : left.isNaN = false)
    (rightNumber : right.isNaN = false) :
    (left.convert target).position ≤ (right.convert target).position ↔
      left.position ≤ right.position := by
  rcases Int.lt_trichotomy left.position right.position with
    below | same | above
  · have wideBelow := within.position_convert_lt leftNumber rightNumber below
    omega
  · have sameWide :
        (left.convert target).position = (right.convert target).position := by
      by_cases signs : left.negative = right.negative
      · rw [Binary.ext signs (code_eq_of_position_eq same)]
      · -- Numbers of unlike signs share a position only at zero.
        have zeros : left.code = 0 ∧ right.code = 0 := by
          cases leftSign : left.negative <;> cases rightSign : right.negative <;>
            simp [leftSign, rightSign, position] at signs same <;> omega
        simp [position, code_convert_of_zero zeros.1, code_convert_of_zero zeros.2]
    omega
  · have wideAbove := within.position_convert_lt rightNumber leftNumber above
    omega

end Format.Within

namespace Width

variable (width : Width)

@[simp]
theorem isNaN_widen
    (number : Binary width.format) :
    (width.widen number).isNaN = number.isNaN := by
  cases width with
  | single => exact isNaN_convert ..
  | double => rfl

theorem isFinite_widen
    (number : Binary width.format) :
    (width.widen number).isFinite = number.isFinite := by
  cases width with
  | single =>
      rcases Bool.eq_false_or_eq_true number.isNaN with noNumber | someNumber
      · rw [isFinite_eq, isFinite_eq, isNaN_widen, noNumber]
        rfl
      · exact Format.binary32_within_binary64.isFinite_convert someNumber
  | double => rfl

theorem isInfinite_widen
    (number : Binary width.format) :
    (width.widen number).isInfinite = number.isInfinite := by
  rw [isInfinite_eq, isInfinite_eq, isFinite_widen, isNaN_widen]

theorem negative_widen
    (number : Binary width.format) :
    (width.widen number).negative = number.negative := by
  cases width with
  | single => exact negative_convert ..
  | double => rfl

/-- A width widens its finite numbers to doubles of the same value. -/
theorem value_widen
    {number : Binary width.format}
    (finite : number.isFinite = true) :
    (width.widen number).value = number.value := by
  cases width with
  | single => exact Format.binary32_within_binary64.value_convert finite
  | double => rfl

/-- Rounding the double that a number was widened to returns the number. -/
theorem round_widen
    {number : Binary width.format}
    (someNumber : number.isNaN = false) :
    width.round (width.widen number) = number := by
  cases width with
  | single => exact Format.binary32_within_binary64.convert_convert someNumber
  | double => rfl

/-- The doubles that numbers of a width are widened to are ordered like the numbers. -/
theorem atMost_widen
    (left right : Binary width.format) :
    (width.widen left).atMost (width.widen right) = left.atMost right := by
  cases width with
  | single =>
      rcases Bool.eq_false_or_eq_true left.isNaN with leftNoNumber | leftNumber
      · simp [atMost, leftNoNumber]
      · rcases Bool.eq_false_or_eq_true right.isNaN with rightNoNumber | rightNumber
        · simp [atMost, rightNoNumber]
        · simp only [atMost, isNaN_widen, leftNumber, rightNumber]
          congr 1
          exact
            decide_eq_decide.mpr
              (Format.binary32_within_binary64.position_convert_le_iff
                leftNumber rightNumber)
  | double => rfl

theorem equals_widen
    (left right : Binary width.format) :
    (width.widen left).equals (width.widen right) = left.equals right := by
  rw [equals_eq_atMost_and_atMost, equals_eq_atMost_and_atMost, atMost_widen, atMost_widen]

theorem isFinite_narrow
    (number : Double) :
    (width.narrow number).isFinite = (width.round number).isFinite :=
  width.isFinite_widen _

theorem isInfinite_narrow
    (number : Double) :
    (width.narrow number).isInfinite = (width.round number).isInfinite :=
  width.isInfinite_widen _

theorem negative_narrow
    (number : Double) :
    (width.narrow number).negative = (width.round number).negative :=
  width.negative_widen _

theorem value_narrow
    {number : Double}
    (finite : (width.narrow number).isFinite = true) :
    (width.narrow number).value = (width.round number).value := by
  rw [isFinite_narrow] at finite
  exact width.value_widen finite

theorem absValue_narrow
    {number : Double}
    (finite : (width.narrow number).isFinite = true) :
    (width.narrow number).absValue = (width.round number).absValue := by
  rw [← abs_value, ← abs_value, width.value_narrow finite]

/-- Narrowing a narrowed double changes nothing. -/
theorem round_narrow
    {number : Double}
    (someNumber : number.isNaN = false) :
    width.round (width.narrow number) = width.round number := by
  apply width.round_widen
  rw [isNaN_round, someNumber]

end Width

end Closeness
