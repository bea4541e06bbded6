import Closeness.Proofs.Counting
import Closeness.Proofs.NormalNumbers
import Closeness.Proofs.PatternRoundTrip

/-!
# Steps of the wider width

Widening a normal number shifts its exponent by a constant and gives its
fraction more bits.  On codes that is a multiplication and an addition:
multiplied is by the number of codes that the wider format has for one of the
narrower format, and the constant is that of the exponents.

Between numbers of one sign the constant cancels out, and no distance is cut
off at the limit.  So the same two numbers are `2 ^ 29` times as many steps
apart in the wider width as in the narrower one.
-/

namespace Closeness

open Binary

namespace Binary

variable {format : Format}

/-- Numbers of one value are the same number, zeros apart. -/
theorem eq_of_value_eq
    {left right : Binary format}
    (away : left.value ≠ 0)
    (same : left.value = right.value) :
    left = right := by
  apply eq_of_position_eq (value_eq_iff.mp same)
  intro atZero
  rw [← position_zero false, ← value_eq_iff, value_zero] at atZero
  exact away atZero

end Binary

namespace Format.Within

variable {source target : Format}

/-- The code of a normal number is multiplied when it is widened, and a constant is added. -/
theorem code_convert_of_normal
    (within : source.Within target)
    (deep : target.fractionBits - source.fractionBits ≤ target.scale - source.scale)
    {number : Binary source}
    (finite : number.isFinite = true)
    (normal : source.hidden ≤ number.code) :
    (number.convert target).code =
      number.code * 2 ^ (target.fractionBits - source.fractionBits) +
        (target.scale - source.scale - (target.fractionBits - source.fractionBits)) *
          target.hidden := by
  have magnitudes := (within.magnitude_convert finite).2
  have refined := within.hidden_eq_mul
  obtain ⟨shift, deeper⟩ := Nat.exists_eq_add_of_le deep
  rw [Nat.pow_eq] at refined
  generalize target.fractionBits - source.fractionBits = bits at *
  rw [deeper] at magnitudes ⊢
  have significandUpper : source.significandOf number.code * 2 ^ bits ≤ 2 * target.hidden := by
    rw [refined, ← Nat.mul_assoc]
    exact Nat.mul_le_mul_right _ (Nat.le_of_lt (source.significandOf_lt number.code))
  have significandLower : target.hidden ≤ source.significandOf number.code * 2 ^ bits := by
    rw [refined, source.significandOf_of_le normal]
    exact Nat.mul_le_mul_right _ (Nat.le_add_right _ _)
  have shifted :
      number.code * 2 ^ bits + (bits + shift - bits) * target.hidden =
        (source.binadeOf number.code + shift) * target.hidden +
          source.significandOf number.code * 2 ^ bits := by
    conv_lhs => rw [source.code_eq_shifted number.code]
    rw [Nat.add_sub_cancel_left, refined]
    ring
  apply target.unitsOfCode_strictMono.injective
  rw [shifted, target.unitsOfCode_shifted significandUpper (Or.inl significandLower)]
  rw [magnitude, magnitude, source.unitsOfCode_eq_significandOf_mul, spacing] at magnitudes
  rw [magnitudes]
  ring

/-- What has a value of the narrower format is widened from there. -/
theorem exists_convert_eq
    (within : source.Within target)
    {number : Binary target}
    (representable : number.value ∈ source.values)
    (away : number.value ≠ 0) :
    ∃ narrower : Binary source,
      narrower.isFinite = true ∧ narrower.convert target = number := by
  obtain ⟨narrower, finite, same⟩ := representable
  refine ⟨narrower, finite, (eq_of_value_eq away ?_).symm⟩
  rw [within.value_convert finite, same]

/-- Between normal numbers of one sign the constant cancels out. -/
theorem position_convert_sub
    (within : source.Within target)
    (deep : target.fractionBits - source.fractionBits ≤ target.scale - source.scale)
    {start stop : Binary source}
    (startFinite : start.isFinite = true)
    (stopFinite : stop.isFinite = true)
    (startNormal : source.hidden ≤ start.code)
    (stopNormal : source.hidden ≤ stop.code)
    (sameSign : start.negative = stop.negative) :
    (stop.convert target).position - (start.convert target).position =
      2 ^ (target.fractionBits - source.fractionBits) * (stop.position - start.position) := by
  have startCode := within.code_convert_of_normal deep startFinite startNormal
  have stopCode := within.code_convert_of_normal deep stopFinite stopNormal
  rw [position, position, position, position, negative_convert, negative_convert, sameSign,
    startCode, stopCode]
  split
  · push_cast
    ring
  · push_cast
    ring

end Format.Within

namespace Binary

/-- Between normal singles of one sign neither distance reaches the limit. -/
theorem distance_convert_of_normal
    {start stop : Single}
    (startFinite : start.isFinite = true)
    (stopFinite : stop.isFinite = true)
    (startNormal : Format.binary32.hidden ≤ start.code)
    (stopNormal : Format.binary32.hidden ≤ stop.code)
    (sameSign : start.negative = stop.negative) :
    (start.convert .binary64).distance (stop.convert .binary64) =
      2 ^ 29 * start.distance stop := by
  have within := Format.binary32_within_binary64
  have startWide := (within.magnitude_convert startFinite).1
  have stopWide := (within.magnitude_convert stopFinite).1
  have difference :
      (stop.convert .binary64).position - (start.convert .binary64).position =
        2 ^ 29 * (stop.position - start.position) :=
    within.position_convert_sub (by decide) startFinite stopFinite startNormal stopNormal sameSign
  have close : (stop.position - start.position).natAbs < Format.binary32.infinityCode := by
    have startShort := isFinite_iff.mp startFinite
    have stopShort := isFinite_iff.mp stopFinite
    rw [position, position, sameSign]
    split <;> omega
  have infinity : Format.binary32.infinityCode = 2139095040 := by
    decide
  have limit : farthest = 9223372036854775807 := by
    decide
  rw [distance_of_isFinite startWide stopWide, distance_of_isFinite startFinite stopFinite,
    difference, limit]
  omega

end Binary

namespace Width

/-- A double whose value is that of a normal single is widened from there. -/
theorem exists_normal_convert_eq
    {number : Double}
    (representable : number.value ∈ Format.binary32.values)
    (normal : 1 / 2 ^ 126 ≤ |number.value|) :
    ∃ narrower : Single,
      narrower.isFinite = true ∧
        Format.binary32.hidden ≤ narrower.code ∧
        single.round number = narrower ∧
        narrower.convert .binary64 = number := by
  have within := Format.binary32_within_binary64
  have away : number.value ≠ 0 := by
    rw [← abs_pos]
    exact lt_of_lt_of_le (by norm_num) normal
  obtain ⟨narrower, finite, rfl⟩ := within.exists_convert_eq representable away
  refine ⟨narrower, finite, ?_, within.convert_convert (isNaN_of_isFinite finite), rfl⟩
  rw [hidden_le_code_iff, Format.leastNormal_binary32, ← within.value_convert finite]
  exact normal

/--
Between doubles of one sign whose values are those of normal singles, the
distance in the wider width is `2 ^ 29` times that in the narrower one.
-/
theorem distance_double_eq_mul
    {start stop : Double}
    (startRepresentable : start.value ∈ Format.binary32.values)
    (stopRepresentable : stop.value ∈ Format.binary32.values)
    (startNormal : 1 / 2 ^ 126 ≤ |start.value|)
    (stopNormal : 1 / 2 ^ 126 ≤ |stop.value|)
    (sameSign : start.negative = stop.negative) :
    double.distance start stop = 2 ^ 29 * single.distance start stop := by
  obtain ⟨startSingle, startFinite, startHidden, startRounded, rfl⟩ :=
    exists_normal_convert_eq startRepresentable startNormal
  obtain ⟨stopSingle, stopFinite, stopHidden, stopRounded, rfl⟩ :=
    exists_normal_convert_eq stopRepresentable stopNormal
  rw [negative_convert, negative_convert] at sameSign
  rw [distance, distance, startRounded, stopRounded]
  exact distance_convert_of_normal startFinite stopFinite startHidden stopHidden sameSign

/-- The lowest single and the normal one next to zero on its side. -/
theorem distance_double_eq_mul_of_range :
    ((largest true : Single).convert .binary64).value ∈ Format.binary32.values ∧
      ((ofRatio true Format.binary32.hidden 1 : Single).convert .binary64).value ∈
        Format.binary32.values ∧
      1 / 2 ^ 126 ≤ |((largest true : Single).convert .binary64).value| ∧
      1 / 2 ^ 126 ≤ |((ofRatio true Format.binary32.hidden 1 : Single).convert .binary64).value| ∧
      ((largest true : Single).convert .binary64).negative =
        ((ofRatio true Format.binary32.hidden 1 : Single).convert .binary64).negative ∧
      double.distance ((largest true : Single).convert .binary64)
          ((ofRatio true Format.binary32.hidden 1 : Single).convert .binary64) =
        2 ^ 29 *
          single.distance ((largest true : Single).convert .binary64)
            ((ofRatio true Format.binary32.hidden 1 : Single).convert .binary64) := by
  have within := Format.binary32_within_binary64
  have startRepresentable :
      ((largest true : Single).convert .binary64).value ∈ Format.binary32.values := by
    have finite : (largest true : Single).isFinite = true := by
      decide
    exact ⟨_, finite, (within.value_convert finite).symm⟩
  have stopRepresentable :
      ((ofRatio true Format.binary32.hidden 1 : Single).convert .binary64).value ∈
        Format.binary32.values := by
    have finite : (ofRatio true Format.binary32.hidden 1 : Single).isFinite = true := by
      decide
    exact ⟨_, finite, (within.value_convert finite).symm⟩
  have startNormal : 1 / 2 ^ 126 ≤ |((largest true : Single).convert .binary64).value| := by
    decide +kernel
  have stopNormal :
      1 / 2 ^ 126 ≤
        |((ofRatio true Format.binary32.hidden 1 : Single).convert .binary64).value| := by
    decide +kernel
  have sameSign :
      ((largest true : Single).convert .binary64).negative =
        ((ofRatio true Format.binary32.hidden 1 : Single).convert .binary64).negative := by
    rw [negative_convert, negative_convert]
    rfl
  exact
    ⟨startRepresentable, stopRepresentable, startNormal, stopNormal, sameSign,
      distance_double_eq_mul startRepresentable stopRepresentable startNormal stopNormal sameSign⟩

end Width

end Closeness
