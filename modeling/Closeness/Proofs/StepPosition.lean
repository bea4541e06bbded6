import Mathlib.Data.Int.Interval
import Mathlib.Data.Set.Card
import Closeness.Proofs.StepCount

/-!
# Walks in the order of the values

The values of a format, from `-∞` over the rational numbers that its finite
numbers stand for to `∞`, are finitely many and linearly ordered; the two zeros
are one value.  `Format.place` counts the values below a given one, so it says
where a value stands in that order without speaking of codes.

The main theorem describes a walk by places alone, for every count and from
any number to any other, infinities included: the place moves by the count
towards that of the goal, and no further than the goal.
-/

namespace Closeness

open Binary

namespace Binary

variable {format : Format}

/-- The rational number that a finite number stands for; infinities are the ends of the order. -/
def extendedValue (number : Binary format) : WithBot (WithTop ℚ) :=
  if number.isInfinite then
    if number.negative then ⊥ else ⊤
  else
    ((number.value : WithTop ℚ) : WithBot (WithTop ℚ))

theorem extendedValue_of_isFinite
    {number : Binary format}
    (finite : number.isFinite = true) :
    number.extendedValue = ((number.value : WithTop ℚ) : WithBot (WithTop ℚ)) := by
  rw [extendedValue, isInfinite_of_isFinite finite, if_neg Bool.false_ne_true]

theorem extendedValue_of_isInfinite
    {number : Binary format}
    (infinite : number.isInfinite = true) :
    number.extendedValue = if number.negative then ⊥ else ⊤ := by
  rw [extendedValue, if_pos infinite]

/-- Values are ordered as positions are. -/
theorem extendedValue_lt_iff
    {left right : Binary format}
    (leftNumber : left.isNaN = false)
    (rightNumber : right.isNaN = false) :
    left.extendedValue < right.extendedValue ↔ left.position < right.position := by
  have room := format.infinityCode_pos
  rcases isFinite_or_isInfinite leftNumber with leftFinite | leftInfinite
  · have leftShort := isFinite_iff_position.mp leftFinite
    rw [extendedValue_of_isFinite leftFinite]
    rcases isFinite_or_isInfinite rightNumber with rightFinite | rightInfinite
    · rw [extendedValue_of_isFinite rightFinite, WithBot.coe_lt_coe, WithTop.coe_lt_coe,
        value_lt_iff]
    · rw [extendedValue_of_isInfinite rightInfinite, position_of_isInfinite rightInfinite]
      cases right.negative with
      | false =>
          have above : ((left.value : WithTop ℚ) : WithBot (WithTop ℚ)) < ⊤ :=
            WithBot.coe_lt_coe.mpr (WithTop.coe_lt_top left.value)
          simp only [Bool.false_eq_true, if_false, above, true_iff]
          omega
      | true =>
          simp only [if_true, not_lt_bot, false_iff]
          omega
  · rw [extendedValue_of_isInfinite leftInfinite, position_of_isInfinite leftInfinite]
    rcases isFinite_or_isInfinite rightNumber with rightFinite | rightInfinite
    · have rightShort := isFinite_iff_position.mp rightFinite
      rw [extendedValue_of_isFinite rightFinite]
      cases left.negative with
      | false =>
          simp only [Bool.false_eq_true, if_false, not_top_lt, false_iff]
          omega
      | true =>
          simp only [if_true, WithBot.bot_lt_coe, true_iff]
          omega
    · rw [extendedValue_of_isInfinite rightInfinite, position_of_isInfinite rightInfinite]
      cases left.negative <;> cases right.negative <;> simp
      all_goals omega

theorem extendedValue_le_iff
    {left right : Binary format}
    (leftNumber : left.isNaN = false)
    (rightNumber : right.isNaN = false) :
    left.extendedValue ≤ right.extendedValue ↔ left.position ≤ right.position := by
  rw [← not_lt, extendedValue_lt_iff rightNumber leftNumber, not_lt]

theorem extendedValue_eq_iff
    {left right : Binary format}
    (leftNumber : left.isNaN = false)
    (rightNumber : right.isNaN = false) :
    left.extendedValue = right.extendedValue ↔ left.position = right.position := by
  rw [le_antisymm_iff, extendedValue_le_iff leftNumber rightNumber,
    extendedValue_le_iff rightNumber leftNumber, ← le_antisymm_iff]

/-- The number at a position, or the infinity on its side from there on. -/
def atPosition (position : Int) : Binary format :=
  ⟨decide (position < 0), min position.natAbs format.infinityCode,
    Nat.lt_of_le_of_lt (Nat.min_le_right _ _) format.infinityCode_lt_codeCount⟩

theorem isNaN_atPosition
    (position : Int) :
    (atPosition position : Binary format).isNaN = false :=
  decide_eq_false (Nat.not_lt.mpr (Nat.min_le_right _ _))

theorem position_atPosition
    {position : Int}
    (inRange : position.natAbs ≤ format.infinityCode) :
    (atPosition position : Binary format).position = position := by
  simp only [atPosition, Binary.position, decide_eq_true_eq]
  split <;> omega

/-- The values at the positions from one infinity to the other grow strictly. -/
theorem strictMonoOn_extendedValue_atPosition :
    StrictMonoOn (fun position => (atPosition position : Binary format).extendedValue)
      { position | position.natAbs ≤ format.infinityCode } := by
  intro lower lowerRange upper upperRange ordered
  show (atPosition lower : Binary format).extendedValue <
    (atPosition upper : Binary format).extendedValue
  rw [extendedValue_lt_iff (isNaN_atPosition lower) (isNaN_atPosition upper),
    position_atPosition lowerRange, position_atPosition upperRange]
  exact ordered

end Binary

namespace Format

variable (format : Format)

/-- The values of a format, its infinities included. -/
def extendedValues : Set (WithBot (WithTop ℚ)) :=
  { value | ∃ number : Binary format, number.isNaN = false ∧ number.extendedValue = value }

/-- The number of values of a format below a given one. -/
noncomputable def place (value : WithBot (WithTop ℚ)) : Nat :=
  (format.extendedValues ∩ Set.Iio value).ncard

variable {format}

/-- The values below that of a number are those at the positions below its own. -/
theorem extendedValues_below_eq_image
    {number : Binary format}
    (someNumber : number.isNaN = false) :
    format.extendedValues ∩ Set.Iio number.extendedValue =
      (fun position => (atPosition position : Binary format).extendedValue) ''
        (Finset.Ico (-(format.infinityCode : Int)) number.position : Set Int) := by
  have bound := position_le_infinityCode someNumber
  ext value
  rw [Finset.coe_Ico]
  constructor
  · rintro ⟨⟨lower, lowerNumber, rfl⟩, below⟩
    have inRange := position_le_infinityCode lowerNumber
    refine ⟨lower.position, ⟨by omega, ?_⟩, ?_⟩
    · exact (extendedValue_lt_iff lowerNumber someNumber).mp below
    · exact
        (extendedValue_eq_iff (isNaN_atPosition _) lowerNumber).mpr
          (position_atPosition inRange)
  · rintro ⟨position, ⟨fromBottom, before⟩, rfl⟩
    have inRange : position.natAbs ≤ format.infinityCode := by
      omega
    refine ⟨⟨_, isNaN_atPosition position, rfl⟩, ?_⟩
    rw [Set.mem_Iio, extendedValue_lt_iff (isNaN_atPosition position) someNumber,
      position_atPosition inRange]
    exact before

/-- Places are positions, counted from negative infinity. -/
theorem place_extendedValue
    {number : Binary format}
    (someNumber : number.isNaN = false) :
    (format.place number.extendedValue : Int) = number.position + format.infinityCode := by
  have bound := position_le_infinityCode someNumber
  have distinct :
      Set.InjOn (fun position => (atPosition position : Binary format).extendedValue)
        (Finset.Ico (-(format.infinityCode : Int)) number.position : Set Int) := by
    apply strictMonoOn_extendedValue_atPosition.injOn.mono
    rw [Finset.coe_Ico]
    rintro position ⟨fromBottom, before⟩
    show position.natAbs ≤ format.infinityCode
    omega
  rw [place, extendedValues_below_eq_image someNumber, distinct.ncard_image,
    Set.ncard_coe_finset, Int.card_Ico]
  omega

end Format

namespace Width

variable (width : Width)

/-- Where a double of a width stands among the values of the width, counted from the lowest. -/
noncomputable def place (number : Double) : Nat :=
  width.format.place number.extendedValue

/-- A number of a width and the double it is widened to have the same value. -/
theorem extendedValue_widen
    {number : Binary width.format}
    (someNumber : number.isNaN = false) :
    (width.widen number).extendedValue = number.extendedValue := by
  rcases isFinite_or_isInfinite someNumber with finite | infinite
  · rw [extendedValue_of_isFinite finite,
      extendedValue_of_isFinite ((width.isFinite_widen number).trans finite),
      width.value_widen finite]
  · rw [extendedValue_of_isInfinite infinite,
      extendedValue_of_isInfinite ((width.isInfinite_widen number).trans infinite),
      negative_widen]

theorem place_widen
    {number : Binary width.format}
    (someNumber : number.isNaN = false) :
    (width.place (width.widen number) : Int) =
      number.position + width.format.infinityCode := by
  rw [place, width.extendedValue_widen someNumber, Format.place_extendedValue someNumber]

theorem place_narrow
    {number : Double}
    (someNumber : number.isNaN = false) :
    (width.place (width.narrow number) : Int) =
      (width.round number).position + width.format.infinityCode :=
  width.place_widen ((width.isNaN_round number).trans someNumber)

/-- Places are ordered as numbers are; in particular the two zeros share one. -/
theorem place_narrow_le_iff
    {left right : Double}
    (leftNumber : left.isNaN = false)
    (rightNumber : right.isNaN = false) :
    width.place (width.narrow left) ≤ width.place (width.narrow right) ↔
      (width.narrow left).atMost (width.narrow right) = true := by
  rw [← Int.ofNat_le, width.place_narrow leftNumber, width.place_narrow rightNumber, narrow,
    narrow, width.atMost_widen,
    atMost_iff ((width.isNaN_round left).trans leftNumber)
      ((width.isNaN_round right).trans rightNumber)]
  omega

/-- The places of a width from one double up to another; negative on the way down. -/
noncomputable def ascent (start stop : Double) : Int :=
  (width.place (width.narrow stop) : Int) - width.place (width.narrow start)

section Walk

variable
    {start direction : Double}
    (startNumber : start.isNaN = false)
    (directionNumber : direction.isNaN = false)
    (count : Nat)

include startNumber directionNumber

/-- A walk ends at a number of its width. -/
theorem exists_widen_eq_step :
    ∃ reached : Binary width.format,
      reached.isNaN = false ∧
        width.step start direction count = width.widen reached ∧
        reached.position =
          positionToward (width.round direction).position count (width.round start).position := by
  have roundedStart := (width.isNaN_round start).trans startNumber
  have roundedDirection := (width.isNaN_round direction).trans directionNumber
  exact
    ⟨_, isNaN_walk _ count roundedStart, width.step_eq startNumber directionNumber count,
      position_walk roundedDirection count roundedStart⟩

theorem ascent_eq :
    width.ascent start direction =
      (width.round direction).position - (width.round start).position := by
  rw [ascent, width.place_narrow startNumber, width.place_narrow directionNumber]
  omega

/-- A walk moves the place by its count towards its goal, and no further than the goal. -/
theorem place_step :
    (width.place (width.step start direction count) : Int) =
      width.place (width.narrow start) +
        (width.ascent start direction).sign *
          (min count (width.ascent start direction).natAbs : Nat) := by
  obtain ⟨reached, reachedNumber, walked, position⟩ :=
    width.exists_widen_eq_step startNumber directionNumber count
  rw [width.ascent_eq startNumber directionNumber, walked, width.place_widen reachedNumber,
    position, positionToward_eq_add, width.place_narrow startNumber]
  omega

/-- A walk stays between its start and its goal. -/
theorem extendedValue_step_mem_uIcc :
    (width.step start direction count).extendedValue ∈
      Set.uIcc (width.narrow start).extendedValue (width.narrow direction).extendedValue := by
  have roundedStart := (width.isNaN_round start).trans startNumber
  have roundedDirection := (width.isNaN_round direction).trans directionNumber
  obtain ⟨reached, reachedNumber, walked, position⟩ :=
    width.exists_widen_eq_step startNumber directionNumber count
  rw [walked, narrow, narrow, width.extendedValue_widen reachedNumber,
    width.extendedValue_widen roundedStart, width.extendedValue_widen roundedDirection,
    Set.mem_uIcc, extendedValue_le_iff roundedStart reachedNumber,
    extendedValue_le_iff reachedNumber roundedDirection,
    extendedValue_le_iff roundedDirection reachedNumber,
    extendedValue_le_iff reachedNumber roundedStart, position, positionToward]
  split <;> omega

/-- A walk is at its goal from the count on by which their places differ. -/
theorem equals_step_narrow_iff :
    (width.step start direction count).equals (width.narrow direction) = true ↔
      (width.ascent start direction).natAbs ≤ count := by
  have roundedDirection := (width.isNaN_round direction).trans directionNumber
  obtain ⟨reached, reachedNumber, walked, position⟩ :=
    width.exists_widen_eq_step startNumber directionNumber count
  rw [width.ascent_eq startNumber directionNumber, walked, narrow, width.equals_widen,
    equals_iff reachedNumber roundedDirection, position, positionToward_eq_target_iff]

/-- A walk of no steps, or from its goal, rests at its start. -/
theorem step_eq_narrow
    (atRest : count = 0 ∨ (width.narrow start).equals (width.narrow direction) = true) :
    width.step start direction count = width.narrow start := by
  rw [width.step_eq startNumber directionNumber, narrow]
  rcases atRest with rfl | arrived
  · rw [walk_zero]
  · rw [narrow, narrow, width.equals_widen] at arrived
    rw [walk_of_equals arrived]

theorem narrow_step :
    width.narrow (width.step start direction count) = width.step start direction count := by
  obtain ⟨reached, reachedNumber, walked, -⟩ :=
    width.exists_widen_eq_step startNumber directionNumber count
  rw [walked, narrow, width.round_widen reachedNumber]

end Walk

end Width

namespace Value

/--
In either width, a walk between any two numbers moves by its count among the
values of the width, towards its goal, or by the whole difference in place if
that is less.  So it stays between its start and its goal, it is at the goal
exactly if its count is at least that difference, and it rests at the start,
sign of zero included, if there is no step to take.
-/
theorem step_moves_place
    (width : Width)
    {start direction : Value}
    {origin goal : Double}
    (startConverts : start.toDouble = .ok origin)
    (directionConverts : direction.toDouble = .ok goal)
    (originNumber : origin.isNaN = false)
    (goalNumber : goal.isNaN = false)
    (count : Nat) :
    ∃ reached,
      step start direction (.leaf (.integer count)) width = .ok reached ∧
        width.narrow reached = reached ∧
        (width.place reached : Int) =
          width.place (width.narrow origin) +
            (width.ascent origin goal).sign *
              (min count (width.ascent origin goal).natAbs : Nat) ∧
        reached.extendedValue ∈
          Set.uIcc (width.narrow origin).extendedValue (width.narrow goal).extendedValue ∧
        (reached.equals (width.narrow goal) = true ↔
          (width.ascent origin goal).natAbs ≤ count) ∧
        (count = 0 ∨ (width.narrow origin).equals (width.narrow goal) = true →
          reached = width.narrow origin) :=
  ⟨width.step origin goal count,
    step_of_converts width startConverts directionConverts originNumber goalNumber count,
    width.narrow_step originNumber goalNumber count,
    width.place_step originNumber goalNumber count,
    width.extendedValue_step_mem_uIcc originNumber goalNumber count,
    width.equals_step_narrow_iff originNumber goalNumber count,
    width.step_eq_narrow originNumber goalNumber count⟩

/-- From the greatest negative single two steps up, across zero, towards infinity. -/
theorem step_moves_place_across_zero :
    toDouble (.leaf (.double (Width.single.widen (least true)))) =
        .ok (Width.single.widen (least true)) ∧
      toDouble (.leaf (.double (infinity false))) = .ok (infinity false) ∧
      (Width.single.widen (least true)).isNaN = false ∧
      (infinity false : Double).isNaN = false ∧
      ∃ reached,
        step (.leaf (.double (Width.single.widen (least true))))
            (.leaf (.double (infinity false))) (.leaf (.integer 2)) .single = .ok reached ∧
          (Width.single.place reached : Int) =
            Width.single.place (Width.single.narrow (Width.single.widen (least true))) + 2 ∧
          reached.equals (Width.single.narrow (infinity false)) = false := by
  have startNumber : (Width.single.widen (least true)).isNaN = false := by
    decide +kernel
  have goalNumber : (infinity false : Double).isNaN = false := by
    decide
  have ascent :
      Width.single.ascent (Width.single.widen (least true)) (infinity false) = 2139095041 := by
    rw [Width.ascent_eq _ startNumber goalNumber]
    decide +kernel
  obtain ⟨reached, walked, -, moved, -, arrives, -⟩ :=
    @step_moves_place .single (.leaf (.double (Width.single.widen (least true))))
      (.leaf (.double (infinity false))) _ _ rfl rfl startNumber goalNumber 2
  rw [ascent] at moved arrives
  refine ⟨rfl, rfl, startNumber, goalNumber, reached, walked, moved, ?_⟩
  rw [← Bool.not_eq_true, arrives]
  decide

end Value

end Closeness
