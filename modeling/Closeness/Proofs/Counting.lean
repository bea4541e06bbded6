import Mathlib.Data.Int.Interval
import Mathlib.Data.Set.Card
import Closeness.Proofs.Widening

/-!
# Counting values

`Format.countBetween` counts the rational numbers that are values of a format
in a half-open interval; the two zeros are one value.  Values grow strictly
with positions and positions are consecutive integers, so between two finite
numbers this count is the difference of their positions.

The main theorem says that distances count values: up to the limit of 63 bits
the distance of two doubles in a width is the signed count of the values of
that width between them, and in the narrower width the limit is never met.
-/

namespace Closeness

open Binary

namespace Format

variable (format : Format)

/-- The rational numbers that finite numbers of a format stand for. -/
def values : Set ℚ :=
  { value | ∃ number : Binary format, number.isFinite = true ∧ number.value = value }

/-- The number of values of a format above one number and up to another. -/
noncomputable def countBetween (lower upper : ℚ) : Nat :=
  (format.values ∩ Set.Ioc lower upper).ncard

/-- The number of values from one number to another, negative on the way down. -/
noncomputable def signedCount (start stop : ℚ) : Int :=
  if start ≤ stop then
    format.countBetween start stop
  else
    -format.countBetween stop start

/-- The number of values that separate two numbers, in either order. -/
noncomputable def separation (left right : ℚ) : Nat :=
  format.countBetween (min left right) (max left right)

variable {format}

theorem values_between_eq_image
    {lower upper : Binary format}
    (lowerFinite : lower.isFinite = true)
    (upperFinite : upper.isFinite = true) :
    format.values ∩ Set.Ioc lower.value upper.value =
      format.valueAt '' (Finset.Ioc lower.position upper.position : Set Int) := by
  ext value
  constructor
  · rintro ⟨⟨number, finite, rfl⟩, above, upTo⟩
    refine ⟨number.position, ?_, (value_eq_valueAt number).symm⟩
    rw [Finset.coe_Ioc]
    exact ⟨value_lt_iff.mp above, value_le_iff.mp upTo⟩
  · rintro ⟨position, within, rfl⟩
    rw [Finset.coe_Ioc] at within
    have lowerShort := isFinite_iff.mp lowerFinite
    have upperShort := isFinite_iff.mp upperFinite
    rw [← natAbs_position] at lowerShort upperShort
    have short : position.natAbs < format.infinityCode := by
      have := within.1
      have := within.2
      omega
    obtain ⟨number, finite, rfl⟩ := exists_position_eq short
    rw [← value_eq_valueAt]
    exact
      ⟨⟨number, finite, rfl⟩, value_lt_iff.mpr within.1, value_le_iff.mpr within.2⟩

/-- Between finite numbers there are as many values as positions. -/
theorem countBetween_eq
    {lower upper : Binary format}
    (lowerFinite : lower.isFinite = true)
    (upperFinite : upper.isFinite = true) :
    format.countBetween lower.value upper.value =
      (upper.position - lower.position).toNat := by
  rw [countBetween, values_between_eq_image lowerFinite upperFinite,
    Set.ncard_image_of_injective _ format.valueAt_strictMono.injective,
    Set.ncard_coe_finset, Int.card_Ioc]

/-- The signed count of values is the difference of positions. -/
theorem signedCount_eq
    {start stop : Binary format}
    (startFinite : start.isFinite = true)
    (stopFinite : stop.isFinite = true) :
    format.signedCount start.value stop.value =
      stop.position - start.position := by
  rw [signedCount, countBetween_eq startFinite stopFinite,
    countBetween_eq stopFinite startFinite]
  split
  · next ascending =>
    rw [value_le_iff] at ascending
    omega
  · next descending =>
    rw [value_le_iff] at descending
    omega

theorem separation_eq
    {left right : Binary format}
    (leftFinite : left.isFinite = true)
    (rightFinite : right.isFinite = true) :
    format.separation left.value right.value =
      (right.position - left.position).natAbs := by
  rcases le_total left.value right.value with ascending | descending
  · rw [separation, min_eq_left ascending, max_eq_right ascending,
      countBetween_eq leftFinite rightFinite]
    rw [value_le_iff] at ascending
    omega
  · rw [separation, min_eq_right descending, max_eq_left descending,
      countBetween_eq rightFinite leftFinite]
    rw [value_le_iff] at descending
    omega

end Format

namespace Width

theorem position_sub_le_farthest
    {width : Width}
    (narrower : width = .single)
    {start stop : Binary width.format}
    (startFinite : start.isFinite = true)
    (stopFinite : stop.isFinite = true) :
    (stop.position - start.position).natAbs ≤ farthest := by
  have startShort := isFinite_iff.mp startFinite
  have stopShort := isFinite_iff.mp stopFinite
  have infinityCode : width.format.infinityCode = 2139095040 := by
    rw [narrower]
    decide
  have limit : farthest = 9223372036854775807 := by
    decide
  rw [← natAbs_position, infinityCode] at startShort stopShort
  omega

/--
The distance of two doubles in a width is the signed number of values of that
width between them, as far as 63 bits reach; in the single width they always
do.  If one of the narrowed doubles is not finite, the distance is the limit.
-/
theorem distance_counts_values
    (width : Width)
    (start stop : Double) :
    ((width.narrow start).isFinite = true → (width.narrow stop).isFinite = true →
      width.distance start stop =
          max (-(2 ^ 63 - 1))
            (min
              (width.format.signedCount
                (width.narrow start).value (width.narrow stop).value)
              (2 ^ 63 - 1)) ∧
        (width = .single →
          width.distance start stop =
            width.format.signedCount
              (width.narrow start).value (width.narrow stop).value)) ∧
      ((width.narrow start).isFinite = false ∨ (width.narrow stop).isFinite = false →
        width.distance start stop = 2 ^ 63 - 1) := by
  have limit : (farthest : Int) = 2 ^ 63 - 1 := by
    decide
  constructor
  · intro startFinite stopFinite
    rw [width.value_narrow startFinite, width.value_narrow stopFinite]
    rw [isFinite_narrow] at startFinite stopFinite
    rw [Format.signedCount_eq startFinite stopFinite, distance,
      distance_of_isFinite startFinite stopFinite, limit]
    refine ⟨rfl, ?_⟩
    intro narrower
    have close := position_sub_le_farthest narrower startFinite stopFinite
    omega
  · intro unbounded
    rw [isFinite_narrow, isFinite_narrow] at unbounded
    rw [distance, distance_of_not_isFinite unbounded, limit]

theorem distance_counts_values_of_range :
    double.distance (largest true) (largest false) =
        max (-(2 ^ 63 - 1))
          (min
            (Format.binary64.signedCount
              (double.narrow (largest true)).value
              (double.narrow (largest false)).value)
            (2 ^ 63 - 1)) ∧
      single.distance (zero true) single.least =
        Format.binary32.signedCount
          (single.narrow (zero true)).value (single.narrow single.least).value ∧
      double.distance (infinity false) (zero false) = 2 ^ 63 - 1 := by
  refine ⟨?_, ?_, ?_⟩
  · exact
      ((distance_counts_values double (largest true) (largest false)).1
        (by decide) (by decide)).1
  · exact
      ((distance_counts_values single (zero true) single.least).1
        (by decide +kernel) (by decide +kernel)).2 rfl
  · exact
      (distance_counts_values double (infinity false) (zero false)).2
        (Or.inl (by decide))

end Width

end Closeness
