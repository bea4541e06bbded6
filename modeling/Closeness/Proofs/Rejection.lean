import Closeness.Proofs.StepPosition
import Closeness.Proofs.Validity

/-!
# Refused parameters

A constructor converts its parameters one after the other and then checks what
it has got.  A conversion that fails ends the construction with its own fault
and without a record.  Once all have succeeded, the request decides alone: one
that is out of range is refused and leaves one record, which repeats the
message of the fault, and any other is stored as it was converted.

`Request.OutOfRange` says in exact numbers what is out of range.  The checks
ask for the opposite and negate the answer, so NaN passes none of them.

One kind of request out of range is not refused.  The message about a count of
steps shows the count, and a count of more digits than are written ends the
construction before it can be refused: with a fault of its own, no record, and
no policy.  `Request.Reportable` leaves these counts out.
-/

namespace Closeness

namespace Logged

variable {α β : Type}

/--
What holds of an operation after a conversion: the rest holds of the converted
value, or else the operation ends with the fault of the conversion and leaves
no records.
-/
def After (operation : Logged α) (conversion : Except Fault β) (rest : β → Prop) : Prop :=
  match conversion with
  | .error fault => operation = ⟨[], .error fault⟩
  | .ok value => rest value

end Logged

namespace Binary

variable {format : Format} {number : Binary format} {bound : ℚ}

/-- A number lies below a rational; negative infinity lies below all of them. -/
def IsBelow (number : Binary format) (bound : ℚ) : Prop :=
  number.extendedValue < ((bound : WithTop ℚ) : WithBot (WithTop ℚ))

/-- A number is at least a rational; positive infinity reaches all of them. -/
def Reaches (number : Binary format) (bound : ℚ) : Prop :=
  ((bound : WithTop ℚ) : WithBot (WithTop ℚ)) ≤ number.extendedValue

theorem isBelow_iff_of_isFinite
    (finite : number.isFinite = true) :
    number.IsBelow bound ↔ number.value < bound := by
  rw [IsBelow, extendedValue_of_isFinite finite, WithBot.coe_lt_coe, WithTop.coe_lt_coe]

theorem isBelow_iff_of_isInfinite
    (infinite : number.isInfinite = true) :
    number.IsBelow bound ↔ number.negative = true := by
  rw [IsBelow, extendedValue_of_isInfinite infinite]
  cases number.negative <;> simp

theorem reaches_iff_not_isBelow :
    number.Reaches bound ↔ ¬ number.IsBelow bound := by
  rw [Reaches, IsBelow, not_lt]

section Finite

variable
    {other : Binary format}
    (otherFinite : other.isFinite = true)

include otherFinite

/-- To lie below the value of a finite number is to lie before it. -/
theorem isBelow_value_iff
    (someNumber : number.isNaN = false) :
    number.IsBelow other.value ↔ number.position < other.position := by
  rw [IsBelow, ← extendedValue_of_isFinite otherFinite,
    extendedValue_lt_iff someNumber (isNaN_of_isFinite otherFinite)]

/-- NaN is as little at least a number as what lies below it. -/
theorem atMost_iff_not_isBelow :
    other.atMost number = true ↔ ¬ (number.isNaN = true ∨ number.IsBelow other.value) := by
  rcases Bool.eq_false_or_eq_true number.isNaN with noNumber | someNumber
  · simp [atMost, noNumber]
  · rw [atMost_iff (isNaN_of_isFinite otherFinite) someNumber, someNumber,
      isBelow_value_iff otherFinite someNumber]
    simp

/-- NaN is as little below a number as what reaches it. -/
theorem below_iff_not_reaches :
    number.below other = true ↔ ¬ (number.isNaN = true ∨ number.Reaches other.value) := by
  rcases Bool.eq_false_or_eq_true number.isNaN with noNumber | someNumber
  · simp [below, noNumber]
  · rw [below_iff someNumber (isNaN_of_isFinite otherFinite), reaches_iff_not_isBelow, someNumber,
      isBelow_value_iff otherFinite someNumber]
    simp

end Finite

theorem zero_atMost_iff_not_isBelow :
    (zero false).atMost number = true ↔ ¬ (number.isNaN = true ∨ number.IsBelow 0) := by
  rw [← value_zero false]
  exact atMost_iff_not_isBelow (isFinite_iff.mpr format.infinityCode_pos)

theorem below_one_iff_not_reaches
    {number : Double} :
    number.below (ofInt 1) = true ↔ ¬ (number.isNaN = true ∨ number.Reaches 1) := by
  rw [← value_one]
  exact below_iff_not_reaches (by decide +kernel)

end Binary

/-- A power of ten has one digit more than zeros. -/
theorem Decimal.lt_length_decimalDigits_pow
    {zeros : Nat}
    (positive : 0 < zeros) :
    zeros < (decimalDigits (10 ^ zeros : Int).natAbs).length := by
  rw [← not_le, Nat.length_toDigits_le_iff (by decide) positive, Int.natAbs_pow]
  exact lt_irrefl _

/-- A tolerance as it is asked for, before any check. -/
inductive Request where
  | margin (bound : Double)
  | epsilon (fraction : Double)
  | ulps (count : Int) (width : Width)

namespace Request

open Binary

/-- What no policy may have for a tolerance. -/
def OutOfRange : Request → Prop
  | margin bound => bound.isNaN = true ∨ bound.IsBelow 0
  | epsilon fraction => fraction.isNaN = true ∨ fraction.IsBelow 0 ∨ fraction.Reaches 1
  | ulps count width =>
    (count < 0 ∨ 2 ^ 64 - 1 < count) ∨ width = .single ∧ 2 ^ 32 - 1 < count

/-- The message about a refusal of the request can be written. -/
def Reportable : Request → Prop
  | ulps count _ => (decimalDigits count.natAbs).length ≤ Decimal.wholeDigitsLimit
  | _ => True

/-- The check that a constructor makes. -/
def check : Request → Except Fault Tolerance
  | margin bound => Tolerance.ofMargin bound
  | epsilon fraction => Tolerance.ofEpsilon fraction
  | ulps count width => Tolerance.ofUlps count width

/-- The tolerance that a request in range turns into. -/
def tolerance : Request → Tolerance
  | margin bound => .margin bound
  | epsilon fraction => .epsilon fraction
  | ulps count width => .ulps count.toNat width

theorem ulpsLimit_lt_iff
    {count : Int}
    (fits : ¬ 2 ^ 64 - 1 < count)
    (width : Width) :
    (width.ulpsLimit : Int) < count ↔ width = .single ∧ 2 ^ 32 - 1 < count := by
  cases width with
  | single => exact (and_iff_right rfl).symm
  | double => exact iff_of_false fits (fun narrow => nomatch narrow.1)

variable {request : Request}

/-- A request out of range is refused, if that can be reported. -/
theorem exists_check_eq_rejected
    (reportable : request.Reportable)
    (outOfRange : request.OutOfRange) :
    ∃ reason, request.check = .error (.rejected reason) := by
  cases request with
  | margin bound =>
    have refused : ¬ (zero false).atMost bound = true := by
      rw [zero_atMost_iff_not_isBelow, not_not]
      exact outOfRange
    rw [check, Tolerance.ofMargin, if_neg refused]
    exact ⟨_, rfl⟩
  | epsilon fraction =>
    rw [check, Tolerance.ofEpsilon]
    split
    · exact ⟨_, rfl⟩
    · next passed =>
      have nonneg : (zero false).atMost fraction = true := by
        simpa using passed
      have reached : fraction.isNaN = true ∨ fraction.Reaches 1 := by
        rw [zero_atMost_iff_not_isBelow, not_or] at nonneg
        exact outOfRange.imp_right fun outside => outside.resolve_left nonneg.2
      have refused : fraction.below (ofInt 1) = false := by
        rwa [← Bool.not_eq_true, below_one_iff_not_reaches, not_not]
      rw [refused]
      exact ⟨_, rfl⟩
  | ulps count width =>
    rw [check, Tolerance.ofUlps]
    split
    · obtain ⟨text, shown⟩ := Scalar.exists_integerToText reportable
      rw [Tolerance.refuseUlps, shown]
      exact ⟨_, rfl⟩
    · next fits =>
      rw [if_pos ((ulpsLimit_lt_iff (not_or.mp fits).2 width).mpr (outOfRange.resolve_left fits))]
      exact ⟨_, rfl⟩

/-- A request in range passes. -/
theorem check_eq_ok
    (inRange : ¬ request.OutOfRange) :
    request.check = .ok request.tolerance := by
  cases request with
  | margin bound =>
    exact if_pos (zero_atMost_iff_not_isBelow.mpr inRange)
  | epsilon fraction =>
    obtain ⟨someNumber, notBelow, notReached⟩ :
        ¬ fraction.isNaN = true ∧ ¬ fraction.IsBelow 0 ∧ ¬ fraction.Reaches 1 := by
      rwa [← not_or, ← not_or]
    have nonneg : (zero false).atMost fraction = true :=
      zero_atMost_iff_not_isBelow.mpr (not_or.mpr ⟨someNumber, notBelow⟩)
    have small : fraction.below (ofInt 1) = true :=
      below_one_iff_not_reaches.mpr (not_or.mpr ⟨someNumber, notReached⟩)
    rw [check, Tolerance.ofEpsilon, nonneg, small]
    rfl
  | ulps count width =>
    obtain ⟨fits, notBeyond⟩ := not_or.mp inRange
    have withinLimit : ¬ (width.ulpsLimit : Int) < count :=
      (ulpsLimit_lt_iff (not_or.mp fits).2 width).not.mpr notBeyond
    exact (if_neg fits).trans (if_neg withinLimit)

/-- A count of more digits than are written does not fit 64 bits. -/
theorem beyond_of_long
    {count : Int}
    (long : Decimal.wholeDigitsLimit < (decimalDigits count.natAbs).length) :
    count < 0 ∨ 2 ^ 64 - 1 < count := by
  have limit : 2 ^ 64 ≤ 10 ^ Decimal.wholeDigitsLimit := by
    decide +kernel
  rw [← not_le, Nat.length_toDigits_le_iff (by decide) (by decide), not_lt] at long
  have large := limit.trans long
  omega

theorem outOfRange_of_not_reportable
    (unreportable : ¬ request.Reportable) :
    request.OutOfRange := by
  cases request with
  | ulps count width => exact Or.inl (beyond_of_long (not_le.mp unreportable))
  | _ => exact absurd trivial unreportable

/-- What cannot be reported is not refused: showing the count fails before. -/
theorem check_of_not_reportable
    (unreportable : ¬ request.Reportable) :
    request.check = .error .unwritable := by
  cases request with
  | ulps count width =>
    have long := not_le.mp unreportable
    have beyond : count < 0 ∨ Tolerance.ulpsMaximum < count := beyond_of_long long
    rw [check, Tolerance.ofUlps, if_pos beyond, Tolerance.refuseUlps,
      Scalar.integerToText_of_lt long]
    rfl
  | _ => exact absurd trivial unreportable

end Request

namespace Policy

/-- What becomes of a reportable request, once all parameters are converted. -/
structure Settled (built : Logged Policy) (target : Double) (request : Request) : Prop where
  /-- Exactly the requests out of range are refused. -/
  refused_iff :
    (∃ reason, built.outcome = .error (.rejected reason)) ↔ request.OutOfRange
  /-- A refusal leaves one record: the message of its fault, and what it is about before that. -/
  recorded :
    ∀ fault, built.outcome = .error fault →
      built.records.map Record.message = ["Rejected comparison parameters: " ++ fault.message]
  /-- What is not refused is stored as it was converted, and leaves no record. -/
  stored :
    ¬ request.OutOfRange → built = ⟨[], .ok ⟨target, request.tolerance⟩⟩

theorem settled_checked
    (target : Double)
    {request : Request}
    (reportable : request.Reportable) :
    Settled (checked target request.check) target request := by
  by_cases outOfRange : request.OutOfRange
  · obtain ⟨reason, refused⟩ := Request.exists_check_eq_rejected reportable outOfRange
    rw [refused]
    refine ⟨iff_of_true ⟨reason, rfl⟩ outOfRange, ?_, fun inRange => absurd outOfRange inRange⟩
    intro fault failed
    cases failed
    rfl
  · rw [Request.check_eq_ok outOfRange]
    refine ⟨iff_of_false ?_ outOfRange, ?_, fun _ => rfl⟩
    · rintro ⟨reason, failed⟩
      cases failed
    · intro fault failed
      cases failed

/-- What cannot be reported leaves no record either. -/
theorem checked_of_not_reportable
    (target : Double)
    {request : Request}
    (unreportable : ¬ request.Reportable) :
    checked target request.check = ⟨[], .error .unwritable⟩ := by
  rw [Request.check_of_not_reportable unreportable]
  rfl

theorem ulps_of_long
    (target : Double)
    {count : Int}
    (width : Width)
    (long : Decimal.wholeDigitsLimit < (decimalDigits count.natAbs).length) :
    ulps (.leaf (.double target)) (.leaf (.integer count)) (.given width) =
      ⟨[], .error .unwritable⟩ :=
  @checked_of_not_reportable target (.ulps count width) (not_le.mpr long)

/--
Every constructor converts its parameters in its order, and ends with the fault
of the first that does not convert.  Once all are converted, it refuses them
with one record exactly if the tolerance is out of range, and stores them
otherwise.  Only a count of steps that has too many digits to be shown ends in
the fault of a number that cannot be written, without a record.
-/
theorem constructions_settled
    (target amount : Value)
    (width : WidthChoice) :
    ((absolute target amount).After target.toDouble fun number =>
        (absolute target amount).After amount.toDouble fun bound =>
          Settled (absolute target amount) number (.margin bound)) ∧
      ((relative target amount).After target.toDouble fun number =>
        (relative target amount).After amount.toDouble fun fraction =>
          Settled (relative target amount) number (.epsilon fraction)) ∧
      (ulps target amount width).After target.toDouble fun number =>
        (ulps target amount width).After width.resolve fun resolved =>
          (ulps target amount width).After amount.toInteger fun steps =>
            ((decimalDigits steps.natAbs).length ≤ Decimal.wholeDigitsLimit →
                Settled (ulps target amount width) number (.ulps steps resolved)) ∧
              (Decimal.wholeDigitsLimit < (decimalDigits steps.natAbs).length →
                (Request.ulps steps resolved).OutOfRange ∧
                  ulps target amount width = ⟨[], .error .unwritable⟩) := by
  refine ⟨?_, ?_, ?_⟩
  · rw [absolute]
    cases target.toDouble with
    | error fault => rfl
    | ok number =>
      cases amount.toDouble with
      | error fault => rfl
      | ok bound => exact @settled_checked number (.margin bound) trivial
  · rw [relative]
    cases target.toDouble with
    | error fault => rfl
    | ok number =>
      cases amount.toDouble with
      | error fault => rfl
      | ok fraction => exact @settled_checked number (.epsilon fraction) trivial
  · rw [ulps]
    cases target.toDouble with
    | error fault => rfl
    | ok number =>
      cases width.resolve with
      | error fault => rfl
      | ok resolved =>
        cases amount.toInteger with
        | error fault => rfl
        | ok steps =>
          constructor
          · intro short
            exact @settled_checked number (.ulps steps resolved) short
          · intro long
            have unreportable : ¬ (Request.ulps steps resolved).Reportable := not_le.mpr long
            exact
              ⟨Request.outOfRange_of_not_reportable unreportable,
                checked_of_not_reportable number unreportable⟩

/-- One step too many for the narrower width, which is given by its name, and a true target. -/
theorem constructions_settled_of_width_limit :
    (∃ reason,
      (ulps (.leaf (.boolean true)) (.leaf (.integer (2 ^ 32)))
        (.named (.leaf (.text "Single")))).outcome = .error (.rejected reason)) ∧
      (ulps (.leaf (.boolean true)) (.leaf (.integer (2 ^ 32)))
          (.named (.leaf (.text "Single")))).records.map Record.message =
        ["Rejected comparison parameters: Provided ULP is impossibly large for a float comparison."] ∧
      ulps (.leaf (.boolean true)) (.leaf (.integer (2 ^ 32 - 1)))
          (.named (.leaf (.text "Single"))) =
        ⟨[], .ok ⟨.ofInt 1, .ulps (2 ^ 32 - 1) .single⟩⟩ ∧
      ulps (.leaf (.boolean true)) (.leaf (.integer (-10 ^ Decimal.wholeDigitsLimit)))
          (.named (.leaf (.text "Single"))) =
        ⟨[], .error .unwritable⟩ := by
  have settled (count : Int) :=
    (constructions_settled (.leaf (.boolean true)) (.leaf (.integer count))
      (.named (.leaf (.text "Single")))).2.2
  obtain ⟨refused, recorded, -⟩ := (settled (2 ^ 32)).1 (by decide +kernel)
  obtain ⟨-, -, stored⟩ := (settled (2 ^ 32 - 1)).1 (by decide +kernel)
  have long :
      Decimal.wholeDigitsLimit <
        (decimalDigits (-10 ^ Decimal.wholeDigitsLimit : Int).natAbs).length := by
    rw [Int.natAbs_neg]
    exact Decimal.lt_length_decimalDigits_pow (by decide)
  obtain ⟨-, unwritten⟩ := (settled (-10 ^ Decimal.wholeDigitsLimit)).2 long
  exact
    ⟨refused.mpr (Or.inr ⟨rfl, by decide⟩), recorded _ rfl,
      stored (by simp [Request.OutOfRange]), unwritten⟩

/--
A count of one digit more than are written is far out of range, and yet it is
neither refused nor recorded.
-/
theorem ulps_of_unwritable_count :
    (Request.ulps (10 ^ Decimal.wholeDigitsLimit) .double).OutOfRange ∧
      ulps (.leaf (.double (.ofInt 1))) (.leaf (.integer (10 ^ Decimal.wholeDigitsLimit)))
          (.given .double) =
        ⟨[], .error .unwritable⟩ ∧
      Fault.unwritable.message =
        "Exceeds the limit (4300 digits) for integer string conversion; " ++
          "use sys.set_int_max_str_digits() to increase the limit" := by
  have long :
      Decimal.wholeDigitsLimit <
        (decimalDigits (10 ^ Decimal.wholeDigitsLimit : Int).natAbs).length :=
    Decimal.lt_length_decimalDigits_pow (by decide)
  exact
    ⟨Or.inl (Request.beyond_of_long long), ulps_of_long (.ofInt 1) .double long,
      by decide +kernel⟩

end Policy

end Closeness
