import Closeness.Policy.Candidates
import Closeness.Policy.Description
import Closeness.Proofs.Acceptance
import Closeness.Proofs.ScientificRoundTrip
import Closeness.Proofs.SumOrder
import Closeness.Proofs.Symmetry

/-!
# What descriptions tell

The description of a policy on steps shows its count and its target, each
followed by a blank.  Neither contains a blank, so both are found again in the
text.  The text of the target ends in the mark of the width, which no text of
the wider width does: where that ends in the same letter, as infinity does,
what stands before it is no text of the narrower width.  And scientific text
is read as the number it was written for, so it tells the target in the width.

As the width, the count and the target in the width decide what a policy on
steps accepts, policies of one description accept the same candidates.
-/

namespace Closeness

open Binary Decimal

namespace Text

/-- A blank that follows a word without blanks ends it. -/
theorem append_blank_inj
    {left right leftRest rightRest : List Char}
    (leftWord : ∀ character ∈ left, character ≠ ' ')
    (rightWord : ∀ character ∈ right, character ≠ ' ')
    (same : left ++ ' ' :: leftRest = right ++ ' ' :: rightRest) :
    left = right ∧ leftRest = rightRest := by
  have first : ∀ {word rest : List Char},
      (∀ character ∈ word, character ≠ ' ') →
        (word ++ ' ' :: rest).takeWhile (· != ' ') = word := by
    intro word rest isWord
    rw [List.takeWhile_append_of_pos fun character member => bne_iff_ne.mpr (isWord _ member)]
    simp
  have words : left = right := by
    rw [← first leftWord, same, first rightWord]
  subst words
  exact ⟨rfl, (List.cons.inj (List.append_cancel_left same)).2⟩

theorem IsPlain.ne_space
    {character : Char}
    (plain : IsPlain character) :
    character ≠ ' ' := by
  rintro rfl
  exact absurd plain (by decide)

theorem isPlain_of_mem_nan :
    ∀ character ∈ ['n', 'a', 'n'], IsPlain character := by
  simp only [List.forall_mem_cons]
  exact ⟨by decide, by decide, by decide, List.forall_mem_nil _⟩

theorem isPlain_of_mem_inf :
    ∀ character ∈ ['i', 'n', 'f'], IsPlain character := by
  simp only [List.forall_mem_cons]
  exact ⟨by decide, by decide, by decide, List.forall_mem_nil _⟩

end Text

open Text

namespace Binary

variable {format : Format}

theorem scientific_of_isNaN
    {number : Binary format}
    (noNumber : number.isNaN = true)
    (count : Nat) :
    number.scientific count = ['n', 'a', 'n'] :=
  render_of_isNaN _ noNumber

theorem isPlain_scientific
    (number : Binary format)
    (count : Nat) :
    ∀ character ∈ number.scientific count, IsPlain character := by
  rcases Bool.eq_false_or_eq_true number.isNaN with noNumber | someNumber
  · rw [scientific_of_isNaN noNumber]
    exact isPlain_of_mem_nan
  · intro character member
    rcases isFinite_or_isInfinite someNumber with finite | infinite
    · rw [scientific_of_isFinite finite, List.mem_append] at member
      rcases member with member | member
      · exact isPlain_sign number.negative character member
      · exact
          isPlain_scientificForm (fun _ => isDigit_of_mem_leftpad) _ character member
    · rw [scientific_of_isInfinite infinite, List.mem_append] at member
      rcases member with member | member
      · exact isPlain_sign number.negative character member
      · exact isPlain_of_mem_inf character member

/-- The text of a finite number ends in a digit of its exponent. -/
theorem exists_getLast?_scientific
    {number : Binary format}
    (finite : number.isFinite = true)
    (count : Nat) :
    ∃ digit, (number.scientific count).getLast? = some digit ∧ digit.isDigit = true := by
  rw [scientific_of_isFinite finite, scientificForm, exponentMark]
  generalize (number.significant count).exponent = exponent
  have notEmpty : (decimalDigits exponent.natAbs).leftpad 2 '0' ≠ [] := by
    rw [← List.length_pos_iff, List.length_leftpad]
    omega
  have lastDigit := isDigit_of_mem_leftpad (List.getLast_mem notEmpty)
  generalize (decimalDigits exponent.natAbs).leftpad 2 '0' = digits at notEmpty lastDigit
  refine ⟨digits.getLast notEmpty, ?_, lastDigit⟩
  simp [List.getLast?_append, List.getLast?_cons, List.getLast?_eq_some_getLast notEmpty]

/-- The forms of scientific text: that of NaN, that of an infinity, and what ends in a digit. -/
theorem scientific_cases
    (number : Binary format)
    (count : Nat) :
    number.scientific count = ['n', 'a', 'n'] ∨
      number.scientific count = sign number.negative ++ ['i', 'n', 'f'] ∨
      ∃ digit, (number.scientific count).getLast? = some digit ∧ digit.isDigit = true := by
  rcases Bool.eq_false_or_eq_true number.isNaN with noNumber | someNumber
  · exact Or.inl (scientific_of_isNaN noNumber count)
  · rcases isFinite_or_isInfinite someNumber with finite | infinite
    · exact Or.inr (Or.inr (exists_getLast?_scientific finite count))
    · exact Or.inr (Or.inl (scientific_of_isInfinite infinite count))

/-- The text of an infinity less its last letter is no text of a number. -/
theorem scientific_ne_sign_append
    (number : Binary format)
    (count : Nat)
    (negative : Bool) :
    number.scientific count ≠ sign negative ++ ['i', 'n'] := by
  rcases number.scientific_cases count with nan | infinite | ⟨digit, last, isDigit⟩
  · rw [nan]
    cases negative <;> decide
  · rw [infinite]
    cases number.negative <;> cases negative <;> decide
  · intro same
    rw [same, List.getLast?_append] at last
    cases last
    exact absurd isDigit (by decide)

/--
With the mark of the narrower width after it, the text of a number is not the
text of any number.
-/
theorem scientific_append_mark_ne
    (left right : Binary format)
    (leftCount rightCount : Nat) :
    left.scientific leftCount ++ ['f'] ≠ right.scientific rightCount := by
  intro same
  have ending : (right.scientific rightCount).getLast? = some 'f' := by
    rw [← same, List.getLast?_append]
    rfl
  -- Of all texts only those of the infinities end in the letter of the mark.
  rcases right.scientific_cases rightCount with nan | infinite | ⟨digit, last, isDigit⟩
  · rw [nan] at ending
    exact absurd ending (by decide)
  · have shortened : left.scientific leftCount = sign right.negative ++ ['i', 'n'] := by
      rw [infinite] at same
      exact (List.append_inj' (same.trans (List.append_assoc _ ['i', 'n'] ['f']).symm) rfl).1
    exact left.scientific_ne_sign_append _ _ shortened
  · rw [last, Option.some.injEq] at ending
    rw [ending] at isDigit
    exact absurd isDigit (by decide)

end Binary

namespace Width

/-- Scientific text shows of which width it is. -/
theorem eq_of_scientific_eq
    {leftWidth rightWidth : Width}
    {left right : Double}
    (same : leftWidth.scientific left = rightWidth.scientific right) :
    leftWidth = rightWidth := by
  cases leftWidth <;> cases rightWidth
  · rfl
  · rw [scientific, scientific, mark, mark, List.append_nil] at same
    exact (scientific_append_mark_ne _ _ _ _ same).elim
  · rw [scientific, scientific, mark, mark, List.append_nil] at same
    exact (scientific_append_mark_ne _ _ _ _ same.symm).elim
  · rfl

variable (width : Width)

theorem isPlain_scientific
    (number : Double) :
    ∀ character ∈ width.scientific number, IsPlain character := by
  intro character member
  rw [scientific, List.mem_append] at member
  rcases member with member | member
  · exact (width.narrow number).isPlain_scientific _ character member
  · cases width with
    | single =>
      rw [List.mem_singleton.mp member]
      decide
    | double => exact absurd member List.not_mem_nil

/-- Numbers have other texts than NaN, since theirs are read as numbers. -/
theorem scientific_eq_nan_iff
    {number : Double} :
    (width.narrow number).scientific width.roundTripDigits = ['n', 'a', 'n'] ↔
      number.isNaN = true := by
  constructor
  · intro text
    by_contra someNumber
    rw [Bool.not_eq_true] at someNumber
    obtain ⟨read, reading, rounded⟩ := width.exists_read?_scientific someNumber
    have nanRead : (read? ['n', 'a', 'n'] : Option Double) = some (nan false) := by
      decide
    rw [text, nanRead] at reading
    cases reading
    have kept := congrArg Binary.isNaN rounded
    rw [isNaN_round, isNaN_round, isNaN_nan, someNumber] at kept
    cases kept
  · intro noNumber
    exact scientific_of_isNaN (by rw [isNaN_narrow, noNumber]) _

/-- Scientific text of a width tells numbers of the width apart, and from NaN. -/
theorem round_eq_of_scientific_eq
    {left right : Double}
    (same : width.scientific left = width.scientific right) :
    width.round left = width.round right ∨ left.isNaN = true ∧ right.isNaN = true := by
  have bodies := List.append_cancel_right same
  have kinds : left.isNaN = true ↔ right.isNaN = true := by
    rw [← width.scientific_eq_nan_iff, bodies, width.scientific_eq_nan_iff]
  rcases Bool.eq_false_or_eq_true left.isNaN with leftNoNumber | leftNumber
  · exact Or.inr ⟨leftNoNumber, kinds.mp leftNoNumber⟩
  · have rightNumber : right.isNaN = false := by
      rw [← Bool.not_eq_true, ← kinds, leftNumber]
      decide
    obtain ⟨leftRead, leftReading, leftRounded⟩ := width.exists_read?_scientific leftNumber
    obtain ⟨rightRead, rightReading, rightRounded⟩ := width.exists_read?_scientific rightNumber
    rw [bodies, rightReading] at leftReading
    cases leftReading
    exact Or.inl (leftRounded.symm.trans rightRounded)

end Width

namespace Policy

theorem toList_describe_of_ulps
    {policy : Policy}
    {count : Nat}
    {width : Width}
    (steps : policy.tolerance = .ulps count width) :
    ∃ rest,
      policy.describe.toList =
        "is within ".toList ++
          (decimalDigits count ++ ' ' ::
            ("ULPs of ".toList ++ (width.scientific policy.target ++ ' ' :: rest))) := by
  rw [describe, steps]
  simp [String.toList_append]

/-- A description tells the count of steps, the width, and the target in the width. -/
theorem fields_of_describe_eq
    {left right : Policy}
    {leftCount rightCount : Nat}
    {leftWidth rightWidth : Width}
    (leftSteps : left.tolerance = .ulps leftCount leftWidth)
    (rightSteps : right.tolerance = .ulps rightCount rightWidth)
    (same : left.describe = right.describe) :
    leftCount = rightCount ∧
      leftWidth = rightWidth ∧
      (leftWidth.round left.target = leftWidth.round right.target ∨
        left.target.isNaN = true ∧ right.target.isNaN = true) := by
  obtain ⟨leftRest, leftText⟩ := toList_describe_of_ulps leftSteps
  obtain ⟨rightRest, rightText⟩ := toList_describe_of_ulps rightSteps
  rw [same, rightText] at leftText
  have digitsWord : ∀ {count : Nat}, ∀ character ∈ decimalDigits count, character ≠ ' ' :=
    fun _ member =>
      (isPlain_of_isDigit (Nat.isDigit_of_mem_toDigits (by decide) (by decide) member)).ne_space
  have targetWord : ∀ {width : Width} {number : Double},
      ∀ character ∈ width.scientific number, character ≠ ' ' :=
    fun character member => (Width.isPlain_scientific _ _ character member).ne_space
  obtain ⟨digits, rest⟩ :=
    append_blank_inj digitsWord digitsWord (List.append_cancel_left leftText)
  obtain ⟨targets, -⟩ :=
    append_blank_inj targetWord targetWord (List.append_cancel_left rest)
  have counts : rightCount = leftCount := by
    simpa using congrArg (Nat.ofDigitChars 10 · 0) digits
  have widths := Width.eq_of_scientific_eq targets
  subst widths
  exact ⟨counts.symm, rfl, Width.round_eq_of_scientific_eq _ targets.symm⟩

/--
Policies on steps that have the same description give every number the same
answer, whatever their counts, widths and targets are.
-/
theorem accepts_eq_of_describe_eq
    {left right : Policy}
    {leftCount rightCount : Nat}
    {leftWidth rightWidth : Width}
    (leftSteps : left.tolerance = .ulps leftCount leftWidth)
    (rightSteps : right.tolerance = .ulps rightCount rightWidth)
    (same : left.describe = right.describe)
    (candidate : Double) :
    ∃ answer,
      (left.acceptsValue (.leaf (.double candidate))).outcome = .ok answer ∧
        (right.acceptsValue (.leaf (.double candidate))).outcome = .ok answer := by
  obtain ⟨counts, widths, targets⟩ := fields_of_describe_eq leftSteps rightSteps same
  subst counts
  subst widths
  have alike : right.accepts candidate = left.accepts candidate := by
    simp only [accepts, leftSteps, rightSteps]
    rcases targets with rounds | ⟨leftNoNumber, rightNoNumber⟩
    · rw [Width.withinUlps, Width.withinUlps, rounds]
    · rw [leftWidth.withinUlps_comm, leftWidth.withinUlps_of_isNaN _ _ rightNoNumber,
        leftWidth.withinUlps_comm, leftWidth.withinUlps_of_isNaN _ _ leftNoNumber]
  refine ⟨left.accepts candidate, rfl, ?_⟩
  rw [← alike]
  rfl

/-- The least double rounds to zero in the narrower width, so it is described like zero there. -/
theorem accepts_eq_of_describe_eq_of_least :
    describe ⟨least false, .ulps 2 .single⟩ = describe ⟨zero false, .ulps 2 .single⟩ ∧
      ∃ answer,
        (acceptsValue ⟨least false, .ulps 2 .single⟩
            (.leaf (.double Width.single.least))).outcome = .ok answer ∧
          (acceptsValue ⟨zero false, .ulps 2 .single⟩
            (.leaf (.double Width.single.least))).outcome = .ok answer := by
  have same :
      describe ⟨least false, .ulps 2 .single⟩ = describe ⟨zero false, .ulps 2 .single⟩ := by
    decide +kernel
  exact ⟨same, accepts_eq_of_describe_eq rfl rfl same Width.single.least⟩

end Policy

end Closeness
