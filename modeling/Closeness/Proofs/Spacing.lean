import Mathlib.Order.Monotone.Basic
import Mathlib.Tactic.Ring
import Closeness.Format

/-!
# Spacing of magnitudes

In a binade with shift `shift` the code `shift * hidden + significand` is the
magnitude `significand * 2 ^ shift`.  The expression keeps its meaning at the
upper end of the binade, where the significand is `2 * hidden`, and for
subnormals, where the shift is zero and the significand may be small.

From this one equation the module derives that magnitudes grow strictly with
their codes, how far the next magnitude is, and that this gap is at least one
part in `2 * hidden` of either neighbour.
-/

namespace Closeness.Format

variable (format : Format)

/-- The shift of the binade in which a code lies. -/
def binadeOf (code : Nat) : Nat :=
  code / format.hidden - 1

/-- The significand of a code in its binade, implicit bit included. -/
def significandOf (code : Nat) : Nat :=
  code - format.binadeOf code * format.hidden

/-- The gap between the magnitude of a code and the next one. -/
def spacing (code : Nat) : Nat :=
  2 ^ format.binadeOf code

theorem hidden_eq : format.hidden = 2 ^ format.fractionBits :=
  rfl

theorem hidden_even : 2 ∣ format.hidden := by
  refine ⟨format.quietBit, ?_⟩
  rw [← format.quietBit_add_quietBit]
  omega

/-- The magnitude of a significand in a binade, both ends of the binade included. -/
theorem unitsOfCode_shifted
    {shift significand : Nat}
    (upper : significand ≤ 2 * format.hidden)
    (lower : format.hidden ≤ significand ∨ shift = 0) :
    format.unitsOfCode (shift * format.hidden + significand) =
      significand * 2 ^ shift := by
  have positive := format.hidden_pos
  rcases Nat.lt_or_ge significand format.hidden with subnormal | normal
  · have noShift : shift = 0 := by omega
    subst noShift
    simp [unitsOfCode, subnormal]
  · obtain ⟨fraction, rfl⟩ := Nat.exists_eq_add_of_le normal
    have regroup :
        shift * format.hidden + (format.hidden + fraction) =
          fraction + (shift + 1) * format.hidden := by
      ring
    have notSubnormal :
        ¬ fraction + (shift + 1) * format.hidden < format.hidden := by
      rw [Nat.succ_mul]
      omega
    rw [regroup, unitsOfCode, if_neg notSubnormal,
      Nat.add_mul_mod_self_right, Nat.add_mul_div_right _ _ positive]
    rcases Nat.lt_or_ge fraction format.hidden with inside | atEnd
    · rw [Nat.mod_eq_of_lt inside, Nat.div_eq_of_lt inside]
      simp
    · have full : fraction = format.hidden := by omega
      subst full
      rw [Nat.mod_self, Nat.div_self positive]
      simp only [Nat.add_zero, Nat.add_sub_cancel_left, Nat.pow_eq, Nat.pow_succ']
      ring

theorem code_eq_shifted
    (code : Nat) :
    code =
      format.binadeOf code * format.hidden + format.significandOf code := by
  have quotient := Nat.div_mul_le_self code format.hidden
  have smaller :
      format.binadeOf code * format.hidden ≤
        code / format.hidden * format.hidden :=
    Nat.mul_le_mul_right _ (Nat.sub_le _ _)
  rw [significandOf]
  omega

theorem significandOf_of_lt
    {code : Nat}
    (subnormal : code < format.hidden) :
    format.significandOf code = code := by
  simp [significandOf, binadeOf, Nat.div_eq_of_lt subnormal]

theorem significandOf_of_le
    {code : Nat}
    (normal : format.hidden ≤ code) :
    format.significandOf code = format.hidden + code % format.hidden := by
  have division := Nat.div_add_mod' code format.hidden
  have positive : 0 < code / format.hidden :=
    Nat.div_pos normal format.hidden_pos
  obtain ⟨shift, quotient⟩ := Nat.exists_eq_add_one.mpr positive
  rw [quotient, Nat.succ_mul] at division
  rw [significandOf, binadeOf, quotient, Nat.add_sub_cancel]
  omega

theorem significandOf_lt
    (code : Nat) :
    format.significandOf code < 2 * format.hidden := by
  have remainder := Nat.mod_lt code format.hidden_pos
  rcases Nat.lt_or_ge code format.hidden with subnormal | normal
  · rw [format.significandOf_of_lt subnormal]
    omega
  · rw [format.significandOf_of_le normal]
    omega

theorem hidden_le_significandOf
    (code : Nat) :
    format.hidden ≤ format.significandOf code ∨ format.binadeOf code = 0 := by
  rcases Nat.lt_or_ge code format.hidden with subnormal | normal
  · right
    rw [binadeOf, Nat.div_eq_of_lt subnormal]
  · left
    rw [format.significandOf_of_le normal]
    exact Nat.le_add_right _ _

/-- A magnitude is its significand in multiples of its spacing. -/
theorem unitsOfCode_eq_significandOf_mul
    (code : Nat) :
    format.unitsOfCode code = format.significandOf code * format.spacing code := by
  rw [spacing]
  rw [← format.unitsOfCode_shifted
    (Nat.le_of_lt (format.significandOf_lt code))
    (format.hidden_le_significandOf code)]
  rw [← format.code_eq_shifted]

theorem spacing_pos
    (code : Nat) :
    0 < format.spacing code :=
  Nat.two_pow_pos _

/-- The next magnitude is one spacing further. -/
theorem unitsOfCode_succ
    (code : Nat) :
    format.unitsOfCode (code + 1) =
      format.unitsOfCode code + format.spacing code := by
  have inBinade := format.significandOf_lt code
  have lower := format.hidden_le_significandOf code
  have next :
      code + 1 =
        format.binadeOf code * format.hidden +
          (format.significandOf code + 1) := by
    rw [← Nat.add_assoc, ← format.code_eq_shifted]
  rw [next, format.unitsOfCode_shifted (by omega) (by omega),
    unitsOfCode_eq_significandOf_mul, spacing]
  ring

/-- Magnitudes grow strictly with their codes. -/
theorem unitsOfCode_strictMono :
    StrictMono format.unitsOfCode := by
  apply strictMono_nat_of_lt_succ
  intro code
  rw [unitsOfCode_succ]
  exact Nat.lt_add_of_pos_right (format.spacing_pos code)

/-- The gap above a magnitude is more than its part in `2 * hidden`. -/
theorem unitsOfCode_lt_mul_spacing
    (code : Nat) :
    format.unitsOfCode code < 2 * format.hidden * format.spacing code := by
  rw [unitsOfCode_eq_significandOf_mul]
  exact Nat.mul_lt_mul_of_pos_right
    (format.significandOf_lt code) (format.spacing_pos code)

/-- The gap below a magnitude is at least its part in `2 * hidden`. -/
theorem unitsOfCode_succ_le_mul_spacing
    (code : Nat) :
    format.unitsOfCode (code + 1) ≤ 2 * format.hidden * format.spacing code := by
  have inBinade := format.significandOf_lt code
  rw [unitsOfCode_succ, unitsOfCode_eq_significandOf_mul, ← Nat.succ_mul]
  exact Nat.mul_le_mul_right _ inBinade

/-- Exponent fields are as many as twice those with one bit less. -/
theorem pow_exponentBits_eq :
    Nat.pow 2 format.exponentBits = 2 * Nat.pow 2 (format.exponentBits - 1) := by
  have width : format.exponentBits = format.exponentBits - 1 + 1 := by
    have := format.two_le_exponentBits
    omega
  rw [Nat.pow_eq, Nat.pow_eq, ← Nat.pow_succ', Nat.succ_eq_add_one, ← width]

theorem two_le_pow_exponentBits_sub_one :
    2 ≤ Nat.pow 2 (format.exponentBits - 1) := by
  apply Nat.le_self_pow
  have := format.two_le_exponentBits
  omega

/-- Infinity has the code that the next power of two would have. -/
theorem unitsOfCode_infinityCode :
    format.unitsOfCode format.infinityCode =
      format.unitsOfOne * 2 ^ Nat.pow 2 (format.exponentBits - 1) := by
  have two_le := format.two_le_pow_exponentBits_sub_one
  rw [infinityCode, unitsOfOne, scale, pow_exponentBits_eq]
  generalize Nat.pow 2 (format.exponentBits - 1) = half at *
  have start :
      (2 * half - 1) * format.hidden =
        (2 * half - 2) * format.hidden + format.hidden := by
    rw [← Nat.succ_mul]
    congr 1
    omega
  rw [start, format.unitsOfCode_shifted (by omega) (Or.inl le_rfl), hidden_eq,
    Nat.pow_eq, ← Nat.pow_add, ← Nat.pow_add]
  congr 1
  omega

end Closeness.Format
