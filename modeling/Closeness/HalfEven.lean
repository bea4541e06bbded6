/-!
# Rounding a quotient to the nearest natural number

`roundHalfEven numerator denominator` is the natural number nearest to the
quotient; of two equally near ones it is the even one.  It is the only
rounding of the library: binary rounding, decimal rounding and conversion of
integers all reduce to it.
-/

namespace Closeness

/-- The natural number nearest to a quotient, a half going to the even neighbour. -/
def roundHalfEven (numerator denominator : Nat) : Nat :=
  let whole := numerator / denominator
  let rest := numerator % denominator
  if 2 * rest < denominator then
    whole
  else if denominator < 2 * rest then
    whole + 1
  else
    whole + whole % 2

/-- The result is the quotient rounded down or up. -/
theorem roundHalfEven_eq_or
    (numerator denominator : Nat) :
    roundHalfEven numerator denominator = numerator / denominator ∨
      roundHalfEven numerator denominator = numerator / denominator + 1 := by
  unfold roundHalfEven
  dsimp only
  split
  · exact Or.inl rfl
  · split
    · exact Or.inr rfl
    · omega

theorem le_roundHalfEven
    (numerator denominator : Nat) :
    numerator / denominator ≤ roundHalfEven numerator denominator := by
  rcases roundHalfEven_eq_or numerator denominator with down | up <;> omega

theorem roundHalfEven_le
    (numerator denominator : Nat) :
    roundHalfEven numerator denominator ≤ numerator / denominator + 1 := by
  rcases roundHalfEven_eq_or numerator denominator with down | up <;> omega

/-- A whole quotient is its own nearest number. -/
@[simp]
theorem roundHalfEven_mul_right
    (whole : Nat)
    {denominator : Nat}
    (positive : 0 < denominator) :
    roundHalfEven (whole * denominator) denominator = whole := by
  simp [roundHalfEven, Nat.mul_div_cancel _ positive, positive]

@[simp]
theorem roundHalfEven_one
    (whole : Nat) :
    roundHalfEven whole 1 = whole := by
  simpa using roundHalfEven_mul_right whole Nat.one_pos

end Closeness
