import Closeness.Proofs.EffectiveMargin
import Closeness.Proofs.MarginExcess
import Closeness.Proofs.Midpoints

/-!
# Policies at opposite targets

The policy of the same tolerance at the opposite target, put to the opposite
number, counts the same steps, so a policy on steps gives the same answer there.

A margin comparison does not.  It only ever adds the margin, which is rounded at
the upper one of the two numbers: the number is accepted although the difference
exceeds the margin if half of the gap below the upper one makes up for the
excess.  Of opposite numbers the lower one takes this part, with the gap above
it.  The two gaps may differ, and of two codes that make up for half a gap only
the even ones do.  `accepts_mirrored_iff` states both conditions; the answers
differ exactly if one of them holds and the other does not.
-/

namespace Closeness

open Binary

namespace Binary

variable {format : Format}

@[simp]
theorem code_neg
    (number : Binary format) :
    (-number).code = number.code :=
  rfl

@[simp]
theorem isFinite_neg
    (number : Binary format) :
    (-number).isFinite = number.isFinite :=
  rfl

protected theorem neg_neg
    (number : Binary format) :
    - -number = number :=
  Binary.ext (Bool.not_not number.negative) rfl

@[simp]
theorem value_neg
    (number : Binary format) :
    (-number).value = -number.value := by
  rw [value_eq_valueAt, value_eq_valueAt, position_neg, Format.valueAt, Format.valueAt,
    Format.unitsAt_neg]
  push_cast
  ring

/-- An excess that rounding at a number makes up for: less than half the gap to a neighbour, or
half of it if the code is even. -/
def Absorbs (number neighbour : Binary format) (excess : ℚ) : Prop :=
  excess < |number.value - neighbour.value| / 2 ∨
    excess = |number.value - neighbour.value| / 2 ∧ number.code % 2 = 0

theorem absorbs_neg
    (number neighbour : Binary format)
    (excess : ℚ) :
    (-number).Absorbs (-neighbour) excess ↔ number.Absorbs neighbour excess := by
  have gap : |(-number).value - (-neighbour).value| = |number.value - neighbour.value| := by
    rw [value_neg, value_neg, neg_sub_neg, abs_sub_comm]
  rw [Absorbs, Absorbs, gap, code_neg]

/-- A finite number is above the one that its step down leads to. -/
theorem position_nextDown_of_isFinite
    {number : Binary format}
    (finite : number.isFinite = true) :
    number.nextDown.position = number.position - 1 := by
  have short := isFinite_iff_position.mp finite
  exact position_nextDown (isNaN_of_isFinite finite) (by omega)

theorem value_nextDown_lt
    {number : Binary format}
    (finite : number.isFinite = true) :
    number.nextDown.value < number.value := by
  rw [value_lt_iff, position_nextDown_of_isFinite finite]
  omega

/-- Rounding reaches a number if the number absorbs what the exact one is short of it. -/
theorem Rounds.atMost_iff_absorbs
    {exact : ℚ}
    {rounded upper : Binary format}
    (rounds : Rounds exact rounded)
    (belowFinite : upper.nextDown.isFinite = true)
    (upperFinite : upper.isFinite = true) :
    upper.atMost rounded = true ↔ upper.Absorbs upper.nextDown (upper.value - exact) := by
  have gap := value_nextDown_lt upperFinite
  have position := position_nextDown_of_isFinite upperFinite
  have upTo := rounds.position_le_iff belowFinite upperFinite (by omega)
  -- The codes of neighbours differ in parity.
  have parity : upper.nextDown.code % 2 = 0 ↔ ¬ upper.code % 2 = 0 := by
    rw [← natAbs_position, ← natAbs_position upper]
    omega
  have above : upper.position ≤ rounded.position ↔
      ¬ rounded.position ≤ upper.nextDown.position := by
    omega
  rw [Absorbs, abs_of_pos (sub_pos.mpr gap), atMost_iff (isNaN_of_isFinite upperFinite)
    rounds.isNaN_eq, above, upTo, parity]
  rcases lt_trichotomy exact ((upper.nextDown.value + upper.value) / 2) with
    short | onMidpoint | past
  · refine iff_of_false (fun passed => passed (Or.inl short)) ?_
    rintro (absorbed | ⟨tie, -⟩) <;> linarith
  · have tie : upper.value - exact = (upper.value - upper.nextDown.value) / 2 := by
      linarith
    rw [tie, onMidpoint]
    simp only [lt_irrefl, true_and, false_or, not_not]
  · refine iff_of_true ?_ (Or.inl (by linarith))
    rintro (short | ⟨onMidpoint, -⟩) <;> linarith

section Ordered

variable
    {lower upper margin : Binary format}
    (lowerFinite : lower.isFinite = true)
    (upperFinite : upper.isFinite = true)
    (marginFinite : margin.isFinite = true)
    (nonneg : 0 ≤ margin.value)
    (ordered : lower.value ≤ upper.value)

include lowerFinite upperFinite marginFinite nonneg ordered

/-- A margin reaches from the lower number to the upper one if the latter absorbs the excess. -/
theorem withinMargin_iff_absorbs :
    lower.withinMargin upper margin = true ↔
      upper.Absorbs upper.nextDown (upper.value - lower.value - margin.value) := by
  rcases ordered.lt_or_eq with apart | same
  · -- Between the two there is room for a step down from the upper one.
    have belowFinite : upper.nextDown.isFinite = true := by
      have position := position_nextDown_of_isFinite upperFinite
      have positions := value_lt_iff.mp apart
      have lowerShort := isFinite_iff_position.mp lowerFinite
      have upperShort := isFinite_iff_position.mp upperFinite
      rw [isFinite_iff_position]
      omega
    have reached :=
      (rounds_add upperFinite marginFinite).atMost_of_value_le lowerFinite (by linarith)
    rw [withinMargin, reached, Bool.and_true, sub_sub]
    exact (rounds_add lowerFinite marginFinite).atMost_iff_absorbs belowFinite upperFinite
  · have gap := abs_pos.mpr (sub_pos.mpr (value_nextDown_lt upperFinite)).ne'
    refine iff_of_true ?_ (Or.inl (by linarith))
    exact withinMargin_of_sub_le lowerFinite upperFinite marginFinite nonneg ordered (by linarith)

/-- Between the opposite numbers the lower one absorbs the excess, on its other side. -/
theorem withinMargin_neg_iff_absorbs :
    (-lower).withinMargin (-upper) margin = true ↔
      lower.Absorbs lower.nextUp (upper.value - lower.value - margin.value) := by
  have opposite : (-upper).value ≤ (-lower).value := by
    rw [value_neg, value_neg]
    exact neg_le_neg ordered
  have excess :
      (-lower).value - (-upper).value - margin.value =
        upper.value - lower.value - margin.value := by
    rw [value_neg, value_neg]
    ring
  have next : (-lower).nextDown = -lower.nextUp := by
    rw [nextDown_eq_neg, Binary.neg_neg]
  rw [withinMargin_comm, ← absorbs_neg, ← next, ← excess]
  exact withinMargin_iff_absorbs upperFinite lowerFinite marginFinite nonneg opposite

end Ordered

/-! ## Steps -/

theorem withinUlps_neg
    (limit : Nat)
    (left right : Binary format) :
    (-left).withinUlps limit (-right) = left.withinUlps limit right := by
  rw [withinUlps, withinUlps, isFinite_neg, isFinite_neg]
  split
  · next finites =>
    rw [Bool.and_eq_true] at finites
    obtain ⟨leftFinite, rightFinite⟩ := finites
    have opposite : (-left).distance (-right) = -left.distance right := by
      rw [distance_of_isFinite (by rwa [isFinite_neg]) (by rwa [isFinite_neg]),
        distance_of_isFinite leftFinite rightFinite, position_neg, position_neg]
      omega
    rw [opposite, Int.natAbs_neg]
  · rw [equals, equals, isNaN_neg, isNaN_neg, position_neg, position_neg, Bool.eq_iff_iff]
    simp

/-- Conversion keeps the sign of every number, so opposite numbers stay opposite. -/
theorem convert_neg
    (target : Format)
    (number : Binary format) :
    (-number).convert target = -number.convert target := by
  have kept : (-number).isInfinite = number.isInfinite :=
    rfl
  rw [convert, convert, isNaN_neg, kept]
  split
  · rfl
  · split
    · rfl
    · rfl

end Binary

namespace Width

theorem round_neg
    (width : Width)
    (number : Double) :
    width.round (-number) = -width.round number := by
  cases width with
  | single => exact convert_neg _ number
  | double => rfl

end Width

namespace Policy

/-- The policy of the same tolerance at the opposite target. -/
def mirrored (policy : Policy) : Policy :=
  { policy with target := -policy.target }

/-- The margin with which a policy compares a number, unless it counts steps. -/
def marginFor? (policy : Policy) (candidate : Double) : Option Double :=
  match policy.tolerance with
  | .margin margin => some margin
  | .epsilon epsilon => some (Tolerance.effectiveMargin epsilon policy.target candidate)
  | .ulps _ _ => none

variable
    {policy : Policy}
    {candidate : Double}

/-- Steps are counted alike on both sides of zero. -/
theorem accepts_mirrored_of_ulps
    {count : Nat}
    {width : Width}
    (steps : policy.tolerance = .ulps count width) :
    policy.mirrored.accepts (-candidate) = policy.accepts candidate := by
  simp only [accepts, mirrored, steps]
  rw [Width.withinUlps, width.round_neg, width.round_neg]
  exact withinUlps_neg ..

/-- The margin depends on the magnitudes of target and number only. -/
theorem marginFor?_mirrored :
    policy.mirrored.marginFor? (-candidate) = policy.marginFor? candidate :=
  rfl

theorem accepts_of_marginFor?
    {margin : Double}
    (compared : policy.marginFor? candidate = some margin) :
    policy.accepts candidate = candidate.withinMargin policy.target margin := by
  obtain ⟨target, tolerance⟩ := policy
  cases tolerance with
  | margin bound =>
    cases compared
    rfl
  | epsilon fraction =>
    cases compared
    rfl
  | ulps count width => cases compared

section Finite

variable
    (valid : policy.tolerance.Valid)
    (bounded : ∀ margin, policy.tolerance = .margin margin → margin.isFinite = true)
    (targetFinite : policy.target.isFinite = true)
    (candidateFinite : candidate.isFinite = true)

include valid bounded targetFinite candidateFinite

theorem isFinite_marginFor?
    {margin : Double}
    (compared : policy.marginFor? candidate = some margin) :
    margin.isFinite = true ∧ 0 ≤ margin.value := by
  obtain ⟨target, tolerance⟩ := policy
  cases tolerance with
  | margin bound =>
    cases compared
    have finite := bounded margin rfl
    rcases Tolerance.valid_iff_inRange.mp valid with rfl | ⟨-, nonneg⟩
    · rw [isFinite_of_isInfinite (isInfinite_infinity false)] at finite
      cases finite
    · exact ⟨finite, nonneg⟩
  | epsilon fraction =>
    cases compared
    rw [Tolerance.effectiveMargin_of_isFinite valid targetFinite candidateFinite]
    exact
      ⟨Tolerance.isFinite_relativeMargin valid targetFinite candidateFinite,
        Tolerance.value_relativeMargin_nonneg valid targetFinite candidateFinite⟩
  | ulps count width => cases compared

/--
The policy at the opposite target compares with the same margin.  Of the
target and the number, the upper one decides with the gap below it whether the
number is accepted, and the lower one with the gap above it whether the opposite
number is accepted there.  Steps are counted alike.
-/
theorem accepts_mirrored_iff :
    (∀ count width, policy.tolerance = .ulps count width →
      policy.mirrored.accepts (-candidate) = policy.accepts candidate) ∧
      ∀ margin, policy.marginFor? candidate = some margin →
        policy.mirrored.marginFor? (-candidate) = some margin ∧
          ∀ lower upper : Double,
            (lower = candidate ∧ upper = policy.target ∨
              lower = policy.target ∧ upper = candidate) →
            lower.value ≤ upper.value →
              (policy.accepts candidate = true ↔
                  upper.Absorbs upper.nextDown (upper.value - lower.value - margin.value)) ∧
                (policy.mirrored.accepts (-candidate) = true ↔
                  lower.Absorbs lower.nextUp (upper.value - lower.value - margin.value)) := by
  refine ⟨fun count width steps => accepts_mirrored_of_ulps steps, ?_⟩
  intro margin compared
  have comparedMirrored := marginFor?_mirrored.trans compared
  obtain ⟨marginFinite, nonneg⟩ :=
    isFinite_marginFor? valid bounded targetFinite candidateFinite compared
  refine ⟨comparedMirrored, ?_⟩
  intro lower upper places ordered
  rw [accepts_of_marginFor? compared, accepts_of_marginFor? comparedMirrored]
  rcases places with ⟨rfl, rfl⟩ | ⟨rfl, rfl⟩
  · exact
      ⟨withinMargin_iff_absorbs candidateFinite targetFinite marginFinite nonneg ordered,
        withinMargin_neg_iff_absorbs candidateFinite targetFinite marginFinite nonneg ordered⟩
  · rw [withinMargin_comm, withinMargin_comm (-upper)]
    exact
      ⟨withinMargin_iff_absorbs targetFinite candidateFinite marginFinite nonneg ordered,
        withinMargin_neg_iff_absorbs targetFinite candidateFinite marginFinite nonneg ordered⟩

end Finite

/-- Half of the gap between one and its lower neighbour. -/
def halfGapBelowOne : Double :=
  ofRatio false Format.binary64.unitsOfOne (2 ^ 54)

/-- The lower neighbour of one as a target, and one as a number. -/
theorem accepts_mirrored_iff_of_one :
    (Tolerance.margin halfGapBelowOne).Valid ∧
      halfGapBelowOne.isFinite = true ∧
      (ofInt 1 : Double).nextDown.isFinite = true ∧
      (ofInt 1 : Double).isFinite = true ∧
      (ofInt 1 : Double).nextDown.value ≤ (ofInt 1 : Double).value ∧
      (accepts ⟨(ofInt 1).nextDown, .margin halfGapBelowOne⟩ (ofInt 1) = true ↔
          (ofInt 1 : Double).Absorbs (ofInt 1).nextDown
            ((ofInt 1 : Double).value - (ofInt 1 : Double).nextDown.value -
              halfGapBelowOne.value)) ∧
      ((mirrored ⟨(ofInt 1).nextDown, .margin halfGapBelowOne⟩).accepts (-ofInt 1) = true ↔
          (ofInt 1 : Double).nextDown.Absorbs (ofInt 1).nextDown.nextUp
            ((ofInt 1 : Double).value - (ofInt 1 : Double).nextDown.value -
              halfGapBelowOne.value)) := by
  have valid : (Tolerance.margin halfGapBelowOne).Valid := by
    decide +kernel
  have marginFinite : halfGapBelowOne.isFinite = true := by
    decide +kernel
  have bounded : ∀ margin,
      Tolerance.margin halfGapBelowOne = .margin margin → margin.isFinite = true := by
    intro margin same
    exact Tolerance.margin.inj same ▸ marginFinite
  have targetFinite : (ofInt 1 : Double).nextDown.isFinite = true := by
    decide +kernel
  have finite : (ofInt 1 : Double).isFinite = true := by
    decide +kernel
  have ordered : (ofInt 1 : Double).nextDown.value ≤ (ofInt 1 : Double).value :=
    (value_nextDown_lt finite).le
  have conditions :=
    @accepts_mirrored_iff ⟨(ofInt 1).nextDown, .margin halfGapBelowOne⟩ (ofInt 1) valid bounded
  dsimp only at conditions
  exact
    ⟨valid, marginFinite, targetFinite, finite, ordered,
      ((conditions targetFinite finite).2 halfGapBelowOne rfl).2 _ _ (Or.inr ⟨rfl, rfl⟩) ordered⟩

/--
An absolute and a relative policy that accept one for its lower neighbour.  Both
are built at the opposite target too, and refuse the opposite number there.
-/
theorem mirrored_refuses_opposite_of_one :
    ((absolute (.leaf (.double (ofInt 1).nextDown))
            (.leaf (.double halfGapBelowOne))).outcome =
          .ok ⟨(ofInt 1).nextDown, .margin halfGapBelowOne⟩ ∧
        accepts ⟨(ofInt 1).nextDown, .margin halfGapBelowOne⟩ (ofInt 1) = true ∧
        (absolute (.leaf (.double (-(ofInt 1).nextDown)))
            (.leaf (.double halfGapBelowOne))).outcome =
          .ok ⟨-(ofInt 1).nextDown, .margin halfGapBelowOne⟩ ∧
        accepts ⟨-(ofInt 1).nextDown, .margin halfGapBelowOne⟩ (-ofInt 1) = false) ∧
      (relative (.leaf (.double (ofInt 1).nextDown))
            (.leaf (.double halfGapBelowOne))).outcome =
          .ok ⟨(ofInt 1).nextDown, .epsilon halfGapBelowOne⟩ ∧
        accepts ⟨(ofInt 1).nextDown, .epsilon halfGapBelowOne⟩ (ofInt 1) = true ∧
        (relative (.leaf (.double (-(ofInt 1).nextDown)))
            (.leaf (.double halfGapBelowOne))).outcome =
          .ok ⟨-(ofInt 1).nextDown, .epsilon halfGapBelowOne⟩ ∧
        accepts ⟨-(ofInt 1).nextDown, .epsilon halfGapBelowOne⟩ (-ofInt 1) = false := by
  decide +kernel

end Policy

end Closeness
