import Closeness.Proofs.EffectiveMargin
import Closeness.Proofs.MarginExcess
import Closeness.Proofs.Midpoints
import Closeness.Proofs.NormalNumbers

/-!
# Targets rounded to the narrower width

A relative policy for the narrower width holds its target as a single, while
candidates stay doubles.  So the number for which a policy was made is in
general not its target.  If it is in the normal range of singles, the two differ
by at most the share `2 ^ (-24)` of it.  The margin for the default fraction is
a share of about `2 ^ (-16)`, and the product that it is computed from is in the
normal range of doubles, so its own rounding takes next to nothing away.
-/

namespace Closeness

open Binary

namespace Binary

variable {format : Format}

/-- Numbers whose exact difference is at most a margin are within it, in either order. -/
theorem withinMargin_of_abs_sub_le
    {left right margin : Binary format}
    (leftFinite : left.isFinite = true)
    (rightFinite : right.isFinite = true)
    (marginFinite : margin.isFinite = true)
    (near : |left.value - right.value| ≤ margin.value) :
    left.withinMargin right margin = true := by
  have nonneg : 0 ≤ margin.value := (abs_nonneg _).trans near
  obtain ⟨fromBelow, fromAbove⟩ := abs_le.mp near
  rcases le_total left.value right.value with ascending | descending
  · exact
      withinMargin_of_sub_le leftFinite rightFinite marginFinite nonneg ascending (by linarith)
  · rw [withinMargin_comm]
    exact
      withinMargin_of_sub_le rightFinite leftFinite marginFinite nonneg descending (by linarith)

end Binary

namespace Width

/-- In the normal range of singles narrowing errs by at most the share `2 ^ (-24)`. -/
theorem abs_sub_narrow_single_le
    {number : Double}
    (finite : number.isFinite = true)
    (normal : 1 / 2 ^ 126 ≤ |number.value|)
    (inRange : (single.narrow number).isFinite = true) :
    |number.value - (single.narrow number).value| ≤ |number.value| / 2 ^ 24 := by
  have rounded : Rounds number.value (number.convert .binary32) :=
    rounds_convert _ finite
  have hidden : (Format.binary32.hidden : ℚ) = 2 ^ 23 := by
    norm_num [Format.hidden, Format.binary32]
  rw [single.value_narrow inRange]
  rw [isFinite_narrow] at inRange
  have error := rounded.abs_sub_value_mul_le inRange (by rwa [Format.leastNormal_binary32])
  rw [hidden] at error
  rw [le_div_iff₀ (by norm_num)]
  calc
    |number.value - (number.convert .binary32).value| * 2 ^ 24 =
        |number.value - (number.convert .binary32).value| * (2 * 2 ^ 23) := by
      ring
    _ ≤ |number.value| := error

end Width

namespace Tolerance

/-- A margin in the normal range is the exact product but for the share `2 ^ (-53)`. -/
theorem le_value_relativeMargin
    {fraction target candidate : Double}
    (valid : (epsilon fraction).Valid)
    (targetFinite : target.isFinite = true)
    (candidateFinite : candidate.isFinite = true)
    (normal : 1 / 2 ^ 1022 ≤ fraction.value * max |candidate.value| |target.value|) :
    fraction.value * max |candidate.value| |target.value| * (1 - 1 / 2 ^ 53) ≤
      (relativeMargin fraction target candidate).value := by
  have rounded := rounds_relativeMargin valid targetFinite candidateFinite
  have finite := isFinite_relativeMargin valid targetFinite candidateFinite
  have hidden : (Format.binary64.hidden : ℚ) = 2 ^ 52 := by
    norm_num [Format.hidden, Format.binary64]
  generalize fraction.value * max |candidate.value| |target.value| = exact at *
  have nonneg : 0 ≤ exact := le_trans (by positivity) normal
  have error :=
    rounded.abs_sub_value_mul_le finite
      (by rwa [Format.leastNormal_binary64, abs_of_nonneg nonneg])
  rw [hidden, abs_of_nonneg nonneg] at error
  have excess := le_abs_self (exact - (relativeMargin fraction target candidate).value)
  linarith

end Tolerance

namespace Policy

/-- Without a fraction that of the width is used. -/
theorem nearRelative_nothing
    (number : Double)
    (width : Width) :
    nearRelative (.leaf (.double number)) (.leaf .nothing) (.given width) =
      checked (width.narrow number)
        (Tolerance.ofEpsilon (width.narrow (defaultEpsilon width))) :=
  rfl

section NarrowedTarget

variable
    {number : Double}
    (finite : number.isFinite = true)
    (normal : 1 / 2 ^ 126 ≤ |number.value|)
    (inRange : (Width.single.narrow number).isFinite = true)

include finite normal inRange

/-- A fraction of the gap above one makes up for narrowing the target. -/
theorem accepts_narrowed_target
    {fraction : Double}
    (valid : (Tolerance.epsilon fraction).Valid)
    (large : 1 / 2 ^ 23 ≤ fraction.value) :
    accepts ⟨Width.single.narrow number, .epsilon fraction⟩ number = true := by
  have error := Width.abs_sub_narrow_single_le finite normal inRange
  have greater := le_max_left |number.value| |(Width.single.narrow number).value|
  have product :
      1 / 2 ^ 23 * |number.value| ≤
        fraction.value * max |number.value| |(Width.single.narrow number).value| :=
    mul_le_mul large greater (abs_nonneg _) (le_trans (by norm_num) large)
  have normalProduct :
      1 / 2 ^ 1022 ≤
        fraction.value * max |number.value| |(Width.single.narrow number).value| := by
    have powers : (1 / 2 ^ 1022 : ℚ) ≤ 1 / 2 ^ 149 :=
      one_div_le_one_div_of_le (by norm_num) (pow_le_pow_right₀ (by norm_num) (by norm_num))
    have small : 1 / 2 ^ 149 ≤ 1 / 2 ^ 23 * |number.value| := by
      linarith
    exact powers.trans (small.trans product)
  have margin := Tolerance.le_value_relativeMargin valid inRange finite normalProduct
  show number.withinMargin (Width.single.narrow number)
    (Tolerance.effectiveMargin fraction (Width.single.narrow number) number) = true
  rw [Tolerance.effectiveMargin_of_isFinite valid inRange finite]
  apply withinMargin_of_abs_sub_le finite inRange
    (Tolerance.isFinite_relativeMargin valid inRange finite)
  have nonneg := abs_nonneg number.value
  linarith

/--
A relative policy for the narrower width, built without a fraction from a double
in the normal range of singles, accepts that double, although its target is the
single to which the double was rounded.
-/
theorem nearRelative_single_accepts_given :
    ∃ policy,
      (nearRelative (.leaf (.double number)) (.leaf .nothing) (.given .single)).outcome =
          .ok policy ∧
        policy.target = Width.single.narrow number ∧
        (policy.acceptsValue (.leaf (.double number))).outcome = .ok true := by
  have passes :
      Tolerance.ofEpsilon (Width.single.narrow (defaultEpsilon .single)) =
        .ok (.epsilon (Width.single.narrow (defaultEpsilon .single))) := by
    decide +kernel
  have large : 1 / 2 ^ 23 ≤ (Width.single.narrow (defaultEpsilon .single)).value := by
    decide +kernel
  have valid := Tolerance.valid_ofEpsilon passes
  rw [nearRelative_nothing, passes]
  refine ⟨_, Logged.outcome_pure _, rfl, ?_⟩
  rw [outcome_acceptsValue_double, accepts_narrowed_target finite normal inRange valid large]

end NarrowedTarget

/-- The last double that is rounded to the largest single and not to infinity. -/
theorem nearRelative_single_accepts_given_of_largest :
    (ofInt (2 ^ 128 - 2 ^ 103) : Double).nextDown.isFinite = true ∧
      1 / 2 ^ 126 ≤ |(ofInt (2 ^ 128 - 2 ^ 103) : Double).nextDown.value| ∧
      (Width.single.narrow (ofInt (2 ^ 128 - 2 ^ 103) : Double).nextDown).isFinite = true ∧
      (Width.single.narrow (ofInt (2 ^ 128 - 2 ^ 103))).isInfinite = true ∧
      ∃ policy,
        (nearRelative (.leaf (.double (ofInt (2 ^ 128 - 2 ^ 103) : Double).nextDown))
            (.leaf .nothing) (.given .single)).outcome =
            .ok policy ∧
          policy.target = Width.single.narrow (ofInt (2 ^ 128 - 2 ^ 103) : Double).nextDown ∧
          (policy.acceptsValue
            (.leaf (.double (ofInt (2 ^ 128 - 2 ^ 103) : Double).nextDown))).outcome =
            .ok true := by
  have finite : (ofInt (2 ^ 128 - 2 ^ 103) : Double).nextDown.isFinite = true := by
    decide +kernel
  have normal : 1 / 2 ^ 126 ≤ |(ofInt (2 ^ 128 - 2 ^ 103) : Double).nextDown.value| := by
    decide +kernel
  have inRange :
      (Width.single.narrow (ofInt (2 ^ 128 - 2 ^ 103) : Double).nextDown).isFinite = true := by
    decide +kernel
  exact
    ⟨finite, normal, inRange, by decide +kernel,
      nearRelative_single_accepts_given finite normal inRange⟩

end Policy

end Closeness
