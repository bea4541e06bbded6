import Mathlib.Data.Rat.Cast.Order
import Mathlib.Tactic.FieldSimp
import Mathlib.Tactic.Linarith
import Mathlib.Tactic.Ring
import Closeness.Binary.Rounding
import Closeness.Proofs.Spacing

/-!
# Rounding by midpoints

`unboundedCode` is the code that rounding selects before codes past infinity
are cut off.  The main equation `unboundedCode_le_iff` compares it with any
code by the midpoint above that code: a ratio is rounded to `code` or less
exactly when it lies below the midpoint of `code` and `code + 1`, or on it
and `code` is even.

What is usually said of rounding follows from this one comparison.  Rounding
is monotone, it keeps magnitudes that are codes already, and no other code is
nearer to the ratio than the one selected.
-/

namespace Closeness

/-- Rounding gives at most a bound exactly up to the half above the bound. -/
theorem roundHalfEven_le_iff
    (numerator bound : Nat)
    {denominator : Nat}
    (positive : 0 < denominator) :
    roundHalfEven numerator denominator ≤ bound ↔
      2 * numerator < (2 * bound + 1) * denominator ∨
        2 * numerator = (2 * bound + 1) * denominator ∧ bound % 2 = 0 := by
  have division := Nat.div_add_mod numerator denominator
  have remainder := Nat.mod_lt numerator positive
  have lower := le_roundHalfEven numerator denominator
  have upper := roundHalfEven_le numerator denominator
  have half :
      (2 * bound + 1) * denominator =
        2 * (denominator * bound) + denominator := by
    ring
  rw [half]
  rcases Nat.lt_trichotomy (numerator / denominator) bound with below | same | above
  · have room :
        denominator * (numerator / denominator + 1) ≤ denominator * bound :=
      Nat.mul_le_mul_left _ below
    rw [Nat.mul_succ] at room
    omega
  · subst same
    rw [roundHalfEven]
    split
    · omega
    · split
      · omega
      · omega
  · have room :
        denominator * (bound + 1) ≤ denominator * (numerator / denominator) :=
      Nat.mul_le_mul_left _ above
    rw [Nat.mul_succ] at room
    omega

namespace Format

variable (format : Format)

/-- The code nearest to a ratio in units, before the cut at infinity. -/
def unboundedCode (numerator denominator : Nat) : Nat :=
  let shift := format.shiftOf (numerator / denominator)
  shift * format.hidden + roundHalfEven numerator (denominator * 2 ^ shift)

theorem nearestCode_eq
    (numerator denominator : Nat) :
    format.nearestCode numerator denominator =
      min (format.unboundedCode numerator denominator) format.infinityCode :=
  rfl

theorem lt_binadeEnd
    (units : Nat) :
    units < 2 * format.hidden * 2 ^ format.shiftOf units := by
  rw [hidden_eq, ← Nat.pow_succ', ← Nat.pow_add]
  rcases Nat.eq_zero_or_pos units with rfl | positive
  · exact Nat.two_pow_pos _
  · calc
      units < 2 ^ (units.log2 + 1) := Nat.lt_log2_self
      _ ≤ 2 ^ (format.fractionBits + 1 + format.shiftOf units) := by
        apply Nat.pow_le_pow_right (by decide)
        rw [shiftOf]
        omega

theorem binadeStart_le
    {units : Nat}
    (shifted : 0 < format.shiftOf units) :
    format.hidden * 2 ^ format.shiftOf units ≤ units := by
  rw [shiftOf] at shifted
  have positive : units ≠ 0 := by
    rintro rfl
    simp at shifted
  rw [hidden_eq, ← Nat.pow_add, shiftOf, Nat.add_sub_cancel' (by omega)]
  exact Nat.log2_self_le positive

theorem midpoint_lt_of_binadeStart_le
    {shift code numerator denominator : Nat}
    (positive : 0 < denominator)
    (before : code < shift * format.hidden + format.hidden)
    (start : format.hidden * 2 ^ shift * denominator ≤ numerator) :
    (format.unitsOfCode code + format.unitsOfCode (code + 1)) * denominator <
      2 * numerator := by
  have atStart :
      format.unitsOfCode (shift * format.hidden + format.hidden) =
        format.hidden * 2 ^ shift :=
    format.unitsOfCode_shifted (by omega) (by omega)
  have ordered :
      format.unitsOfCode (code + 1) ≤ format.hidden * 2 ^ shift := by
    rw [← atStart]
    exact format.unitsOfCode_strictMono.monotone (by omega)
  have next := format.unitsOfCode_strictMono (Nat.lt_add_one code)
  calc
    (format.unitsOfCode code + format.unitsOfCode (code + 1)) * denominator <
        (2 * (format.hidden * 2 ^ shift)) * denominator :=
      Nat.mul_lt_mul_of_pos_right (by omega) positive
    _ ≤ 2 * numerator := by
      rw [Nat.mul_assoc]
      exact Nat.mul_le_mul_left _ start

theorem lt_midpoint_of_lt_binadeEnd
    {shift code numerator denominator : Nat}
    (after : shift * format.hidden + 2 * format.hidden ≤ code)
    (stop : numerator < 2 * format.hidden * 2 ^ shift * denominator) :
    2 * numerator <
      (format.unitsOfCode code + format.unitsOfCode (code + 1)) * denominator := by
  have atEnd :
      format.unitsOfCode (shift * format.hidden + 2 * format.hidden) =
        2 * format.hidden * 2 ^ shift :=
    format.unitsOfCode_shifted (by omega) (by omega)
  have ordered :
      2 * format.hidden * 2 ^ shift ≤ format.unitsOfCode code := by
    rw [← atEnd]
    exact format.unitsOfCode_strictMono.monotone after
  have next := format.unitsOfCode_strictMono (Nat.lt_add_one code)
  calc
    2 * numerator < 2 * (2 * format.hidden * 2 ^ shift * denominator) := by
      omega
    _ = (2 * (2 * format.hidden * 2 ^ shift)) * denominator := by
      ring
    _ ≤ (format.unitsOfCode code + format.unitsOfCode (code + 1)) * denominator :=
      Nat.mul_le_mul_right _ (by omega)

/-- Inside a binade the halves between significands are the midpoints between codes. -/
theorem significand_le_iff
    (shift significand numerator : Nat)
    {denominator : Nat}
    (positive : 0 < denominator)
    (inside : significand < 2 * format.hidden)
    (lower : format.hidden ≤ significand ∨ shift = 0) :
    roundHalfEven numerator (denominator * 2 ^ shift) ≤ significand ↔
      2 * numerator <
          (format.unitsOfCode (shift * format.hidden + significand) +
            format.unitsOfCode (shift * format.hidden + significand + 1)) *
            denominator ∨
        2 * numerator =
            (format.unitsOfCode (shift * format.hidden + significand) +
              format.unitsOfCode (shift * format.hidden + significand + 1)) *
              denominator ∧
          (shift * format.hidden + significand) % 2 = 0 := by
  have unitPositive : 0 < denominator * 2 ^ shift :=
    Nat.mul_pos positive (Nat.two_pow_pos _)
  have midpoint :
      (format.unitsOfCode (shift * format.hidden + significand) +
          format.unitsOfCode (shift * format.hidden + significand + 1)) *
          denominator =
        (2 * significand + 1) * (denominator * 2 ^ shift) := by
    rw [Nat.add_assoc, format.unitsOfCode_shifted (by omega) lower,
      format.unitsOfCode_shifted (by omega) (by omega)]
    ring
  have parity : (shift * format.hidden + significand) % 2 = significand % 2 := by
    obtain ⟨half, even⟩ := format.hidden_even
    rw [even, Nat.mul_left_comm, Nat.mul_add_mod]
  rw [roundHalfEven_le_iff numerator significand unitPositive, midpoint, parity]

/-- A ratio is rounded to a code or less exactly up to the midpoint above the code. -/
theorem unboundedCode_le_iff
    (numerator code : Nat)
    {denominator : Nat}
    (positive : 0 < denominator) :
    format.unboundedCode numerator denominator ≤ code ↔
      2 * numerator <
          (format.unitsOfCode code + format.unitsOfCode (code + 1)) * denominator ∨
        2 * numerator =
            (format.unitsOfCode code + format.unitsOfCode (code + 1)) * denominator ∧
          code % 2 = 0 := by
  rw [unboundedCode]
  have endBound := format.lt_binadeEnd (numerator / denominator)
  have startBound := @binadeStart_le format (numerator / denominator)
  generalize format.shiftOf (numerator / denominator) = shift at *
  have unitPositive : 0 < denominator * 2 ^ shift :=
    Nat.mul_pos positive (Nat.two_pow_pos _)
  have stop : numerator < 2 * format.hidden * 2 ^ shift * denominator :=
    (Nat.div_lt_iff_lt_mul positive).mp endBound
  have significandUpper :
      roundHalfEven numerator (denominator * 2 ^ shift) ≤ 2 * format.hidden := by
    refine Nat.le_trans (roundHalfEven_le _ _) ?_
    rw [Nat.succ_le_iff, Nat.div_lt_iff_lt_mul unitPositive]
    calc
      numerator < 2 * format.hidden * 2 ^ shift * denominator := stop
      _ = 2 * format.hidden * (denominator * 2 ^ shift) := by ring
  rcases Nat.lt_or_ge code (shift * format.hidden + 2 * format.hidden) with
    beforeEnd | afterEnd
  · rcases Nat.lt_or_ge code (shift * format.hidden + format.hidden) with
      beforeNormal | normal
    · rcases Nat.eq_zero_or_pos shift with noShift | shifted
      · -- Without a shift the codes below `hidden` are subnormal and belong to the binade.
        subst noShift
        simpa using
          format.significand_le_iff 0 code numerator positive (by omega) (Or.inr rfl)
      · have start : format.hidden * 2 ^ shift * denominator ≤ numerator :=
          (Nat.le_div_iff_mul_le positive).mp (startBound shifted)
        have behind :=
          format.midpoint_lt_of_binadeStart_le positive beforeNormal start
        have significandLower :
            format.hidden ≤ roundHalfEven numerator (denominator * 2 ^ shift) := by
          refine Nat.le_trans ?_ (le_roundHalfEven _ _)
          rw [Nat.le_div_iff_mul_le unitPositive]
          calc
            format.hidden * (denominator * 2 ^ shift) =
                format.hidden * 2 ^ shift * denominator := by ring
            _ ≤ numerator := start
        omega
    · obtain ⟨significand, rfl⟩ :=
        Nat.exists_eq_add_of_le (Nat.le_trans (Nat.le_add_right _ _) normal)
      rw [Nat.add_le_add_iff_left]
      exact
        format.significand_le_iff shift significand numerator positive
          (by omega) (by omega)
  · have ahead := format.lt_midpoint_of_lt_binadeEnd afterEnd stop
    constructor
    · intro _
      exact Or.inl ahead
    · intro _
      omega

/-! ## Consequences in exact arithmetic -/

/-- The number halfway between a magnitude and the next one. -/
def midpoint (code : Nat) : ℚ :=
  ((format.unitsOfCode code : ℚ) + format.unitsOfCode (code + 1)) / 2

theorem unitsOfCode_lt_midpoint
    (code : Nat) :
    (format.unitsOfCode code : ℚ) < format.midpoint code := by
  have next : (format.unitsOfCode code : ℚ) < format.unitsOfCode (code + 1) := by
    exact_mod_cast format.unitsOfCode_strictMono (Nat.lt_add_one code)
  rw [midpoint]
  linarith

theorem midpoint_lt_unitsOfCode_succ
    (code : Nat) :
    format.midpoint code < format.unitsOfCode (code + 1) := by
  have next : (format.unitsOfCode code : ℚ) < format.unitsOfCode (code + 1) := by
    exact_mod_cast format.unitsOfCode_strictMono (Nat.lt_add_one code)
  rw [midpoint]
  linarith

/-- Rounding compares a ratio with the midpoints, a midpoint going to the even code. -/
theorem unboundedCode_le_iff_ratio
    (numerator code : Nat)
    {denominator : Nat}
    (positive : 0 < denominator) :
    format.unboundedCode numerator denominator ≤ code ↔
      (numerator : ℚ) / denominator < format.midpoint code ∨
        (numerator : ℚ) / denominator = format.midpoint code ∧ code % 2 = 0 := by
  have positiveRational : (0 : ℚ) < denominator := by
    exact_mod_cast positive
  rw [unboundedCode_le_iff format numerator code positive, midpoint,
    div_lt_div_iff₀ positiveRational two_pos,
    div_eq_div_iff positiveRational.ne' two_ne_zero, mul_comm (numerator : ℚ)]
  norm_cast

theorem ratio_le_midpoint
    (numerator : Nat)
    {denominator : Nat}
    (positive : 0 < denominator) :
    (numerator : ℚ) / denominator ≤
      format.midpoint (format.unboundedCode numerator denominator) := by
  rcases (format.unboundedCode_le_iff_ratio numerator _ positive).mp le_rfl with
    below | ⟨onMidpoint, _⟩
  · exact below.le
  · exact onMidpoint.le

theorem midpoint_le_ratio
    {numerator denominator code : Nat}
    (positive : 0 < denominator)
    (smaller : code < format.unboundedCode numerator denominator) :
    format.midpoint code ≤ (numerator : ℚ) / denominator := by
  by_contra below
  exact
    absurd
      ((format.unboundedCode_le_iff_ratio numerator code positive).mpr
        (Or.inl (not_le.mp below)))
      (not_le.mpr smaller)

/-- Greater ratios are rounded to greater codes. -/
theorem unboundedCode_mono
    {numerator denominator numerator' denominator' : Nat}
    (positive : 0 < denominator)
    (positive' : 0 < denominator')
    (ordered :
      (numerator : ℚ) / denominator ≤ (numerator' : ℚ) / denominator') :
    format.unboundedCode numerator denominator ≤
      format.unboundedCode numerator' denominator' := by
  rw [unboundedCode_le_iff_ratio format numerator _ positive]
  rcases (format.unboundedCode_le_iff_ratio numerator' _ positive').mp le_rfl with
    below | ⟨onMidpoint, even⟩
  · exact Or.inl (ordered.trans_lt below)
  · rw [onMidpoint] at ordered
    rcases ordered.lt_or_eq with below | same
    · exact Or.inl below
    · exact Or.inr ⟨same, even⟩

/-- A ratio strictly between the midpoints around a code is rounded to that code. -/
theorem unboundedCode_eq_of_between
    {numerator denominator code : Nat}
    (positive : 0 < denominator)
    (below : (numerator : ℚ) / denominator < format.midpoint code)
    (above :
      ∀ previous, code = previous + 1 →
        format.midpoint previous < (numerator : ℚ) / denominator) :
    format.unboundedCode numerator denominator = code := by
  have upper : format.unboundedCode numerator denominator ≤ code :=
    (format.unboundedCode_le_iff_ratio numerator code positive).mpr (Or.inl below)
  rcases upper.lt_or_eq with smaller | same
  · obtain ⟨previous, rfl⟩ :=
      Nat.exists_eq_add_one.mpr (Nat.lt_of_le_of_lt (Nat.zero_le _) smaller)
    have passed := above previous rfl
    rcases (format.unboundedCode_le_iff_ratio numerator previous positive).mp
        (Nat.le_of_lt_succ smaller) with short | ⟨onMidpoint, _⟩
    · exact absurd short passed.not_gt
    · exact absurd onMidpoint passed.ne'
  · exact same

/-- Magnitudes of codes are kept. -/
theorem unboundedCode_unitsOfCode
    {numerator denominator code : Nat}
    (positive : 0 < denominator)
    (exact : (numerator : ℚ) / denominator = format.unitsOfCode code) :
    format.unboundedCode numerator denominator = code := by
  apply format.unboundedCode_eq_of_between positive
  · rw [exact]
    exact format.unitsOfCode_lt_midpoint code
  · rintro previous rfl
    rw [exact]
    exact format.midpoint_lt_unitsOfCode_succ previous

theorem le_unboundedCode
    {numerator denominator code : Nat}
    (positive : 0 < denominator)
    (reached : (format.unitsOfCode code : ℚ) ≤ numerator / denominator) :
    code ≤ format.unboundedCode numerator denominator := by
  have kept : format.unboundedCode (format.unitsOfCode code) 1 = code :=
    format.unboundedCode_unitsOfCode Nat.one_pos (by simp)
  calc
    code = format.unboundedCode (format.unitsOfCode code) 1 := kept.symm
    _ ≤ format.unboundedCode numerator denominator :=
      format.unboundedCode_mono Nat.one_pos positive (by simpa using reached)

theorem unboundedCode_eq_zero
    {numerator denominator : Nat}
    (positive : 0 < denominator)
    (small : (numerator : ℚ) / denominator < 1 / 2) :
    format.unboundedCode numerator denominator = 0 := by
  have unit : format.unitsOfCode (0 + 1) = 1 :=
    format.unitsOfCode_of_lt format.one_lt_hidden
  apply Nat.le_zero.mp
  rw [format.unboundedCode_le_iff_ratio numerator 0 positive, midpoint, unit]
  exact Or.inl (by simpa using small)

/-- No magnitude is nearer to a ratio than that of the code it is rounded to. -/
theorem abs_sub_unboundedCode_le
    (numerator code : Nat)
    {denominator : Nat}
    (positive : 0 < denominator) :
    |(numerator : ℚ) / denominator -
        format.unitsOfCode (format.unboundedCode numerator denominator)| ≤
      |(numerator : ℚ) / denominator - format.unitsOfCode code| := by
  have monotone : ∀ {lower upper : Nat}, lower ≤ upper →
      (format.unitsOfCode lower : ℚ) ≤ format.unitsOfCode upper := by
    intro lower upper ordered
    exact_mod_cast format.unitsOfCode_strictMono.monotone ordered
  have within := format.ratio_le_midpoint numerator positive
  rcases Nat.lt_trichotomy code (format.unboundedCode numerator denominator) with
    smaller | same | greater
  · obtain ⟨previous, selected⟩ :=
      Nat.exists_eq_add_one.mpr (Nat.lt_of_le_of_lt (Nat.zero_le _) smaller)
    rw [selected] at smaller ⊢
    have passed : format.midpoint previous ≤ (numerator : ℚ) / denominator :=
      format.midpoint_le_ratio positive (by omega)
    have codeBelow := monotone (Nat.le_of_lt_succ smaller)
    have previousBelow := monotone (Nat.le_succ previous)
    rw [midpoint] at passed
    rw [abs_of_nonneg (a := (numerator : ℚ) / denominator - format.unitsOfCode code)
      (by linarith), abs_le]
    constructor <;> linarith
  · rw [same]
  · have codeAbove := monotone (Nat.succ_le_of_lt greater)
    have selectedBelow :=
      monotone (Nat.le_succ (format.unboundedCode numerator denominator))
    rw [midpoint] at within
    rw [Nat.succ_eq_add_one] at codeAbove selectedBelow
    rw [abs_sub_comm ((numerator : ℚ) / denominator) (format.unitsOfCode code),
      abs_of_nonneg (a := (format.unitsOfCode code : ℚ) - numerator / denominator)
      (by linarith), abs_le]
    constructor <;> linarith

/--
A ratio that is nearer to a magnitude than its part in `4 * hidden` is rounded
to that magnitude: half the gaps on both sides are at least as wide.
-/
theorem unboundedCode_eq_of_close
    {numerator denominator code : Nat}
    (positive : 0 < denominator)
    (close :
      |(numerator : ℚ) / denominator - format.unitsOfCode code| *
          (4 * format.hidden) <
        format.unitsOfCode code) :
    format.unboundedCode numerator denominator = code := by
  have hiddenPositive : (0 : ℚ) < format.hidden := by
    exact_mod_cast format.hidden_pos
  rw [← lt_div_iff₀ (by positivity), abs_lt] at close
  apply format.unboundedCode_eq_of_between positive
  · have gap :
        (format.unitsOfCode code : ℚ) < 2 * format.hidden * format.spacing code := by
      exact_mod_cast format.unitsOfCode_lt_mul_spacing code
    have halfGap :
        (format.unitsOfCode code : ℚ) / (4 * format.hidden) <
          format.spacing code / 2 := by
      rw [div_lt_div_iff₀ (by positivity) two_pos]
      linarith
    rw [midpoint, unitsOfCode_succ]
    push_cast
    linarith
  · rintro previous rfl
    have gap :
        (format.unitsOfCode (previous + 1) : ℚ) ≤
          2 * format.hidden * format.spacing previous := by
      exact_mod_cast format.unitsOfCode_succ_le_mul_spacing previous
    have halfGap :
        (format.unitsOfCode (previous + 1) : ℚ) / (4 * format.hidden) ≤
          format.spacing previous / 2 := by
      rw [div_le_div_iff₀ (by positivity) two_pos]
      linarith
    have next :
        (format.unitsOfCode (previous + 1) : ℚ) =
          format.unitsOfCode previous + format.spacing previous := by
      exact_mod_cast format.unitsOfCode_succ previous
    rw [midpoint]
    linarith

end Format

end Closeness
