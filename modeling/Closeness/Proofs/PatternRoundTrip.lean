import Closeness.Proofs.Widening
import Closeness.Value.Operations

/-!
# Patterns are read back

A width widens its numbers to doubles and rounds doubles to its numbers, and
the second undoes the first.  That holds of a quiet NaN too: its fraction
field gains zeros at the low end when it is widened, and loses them again.
Only a signalling NaN comes back changed, since conversion makes it quiet.

Hence the pattern of a double is read as that double, narrowed, and a pattern
is that of the double it is read as, unless it is signalling.  An integer
outside the signed range of the width is no pattern and is refused.
-/

namespace Closeness

open Binary

namespace Format

variable (format : Format)

/-- The low bits of a pattern are the code of a NaN without the quiet bit. -/
def SignallingPattern (pattern : Int) : Prop :=
  (format.infinityCode : Int) < pattern % format.codeCount ∧
    pattern % format.codeCount < format.infinityCode + format.quietBit

instance (pattern : Int) : Decidable (format.SignallingPattern pattern) :=
  inferInstanceAs (Decidable (_ ∧ _))

/-- The codes of the last binade are told apart by their fraction fields. -/
theorem infinityCode_add_mod_hidden
    {fraction : Nat}
    (fits : fraction < format.hidden) :
    (format.infinityCode + fraction) % format.hidden = fraction := by
  rw [infinityCode, Nat.mul_add_mod_self_right, Nat.mod_eq_of_lt fits]

variable {format}

/-- A fraction field that has the quiet bit already is kept. -/
theorem quieten_of_quietBit_le
    {fraction : Nat}
    (quiet : format.quietBit ≤ fraction)
    (fits : fraction < format.hidden) :
    quieten format fraction = fraction := by
  obtain ⟨payload, rfl⟩ := Nat.exists_eq_add_of_le quiet
  have double := format.quietBit_add_quietBit
  have small : payload < format.quietBit := by omega
  rw [quieten, Nat.add_mod_left, Nat.mod_eq_of_lt small]

variable {source target : Format}

theorem Within.fractionBits_le
    (within : source.Within target) :
    source.fractionBits ≤ target.fractionBits :=
  (Nat.pow_le_pow_iff_right (by decide)).mp within.hidden_le

theorem Within.hidden_eq_mul
    (within : source.Within target) :
    target.hidden =
      source.hidden * Nat.pow 2 (target.fractionBits - source.fractionBits) := by
  have narrower := within.fractionBits_le
  simp only [hidden, Nat.pow_eq, ← Nat.pow_add]
  congr 1
  omega

theorem Within.quietBit_eq_mul
    (within : source.Within target) :
    target.quietBit =
      source.quietBit * Nat.pow 2 (target.fractionBits - source.fractionBits) := by
  have narrower := within.fractionBits_le
  have positive := source.fractionBits_pos
  simp only [quietBit, Nat.pow_eq, ← Nat.pow_add]
  congr 1
  omega

/-- The low zeros that a fraction field gains in a wider format are what it loses again. -/
theorem Within.alignFraction_alignFraction
    (within : source.Within target)
    (fraction : Nat) :
    alignFraction target source (alignFraction source target fraction) = fraction := by
  have narrower := within.fractionBits_le
  rw [alignFraction, alignFraction, if_pos narrower]
  split
  · next same =>
    have noShift : target.fractionBits - source.fractionBits = 0 := by omega
    have noShift' : source.fractionBits - target.fractionBits = 0 := by omega
    simp [noShift, noShift']
  · exact Nat.mul_div_cancel _ (Nat.two_pow_pos _)

end Format

namespace Binary

variable {format source target : Format}

/-- A NaN without the quiet bit. -/
def isSignalling (number : Binary format) : Bool :=
  number.isNaN && number.code < format.infinityCode + format.quietBit

theorem isSignalling_of_isNaN_eq_false
    {number : Binary format}
    (someNumber : number.isNaN = false) :
    number.isSignalling = false := by
  rw [isSignalling, someNumber, Bool.false_and]

/-- The code of a NaN is its fraction field above infinity. -/
theorem code_of_isNaN
    {number : Binary format}
    (noNumber : number.isNaN = true) :
    number.code = format.infinityCode + number.code % format.hidden := by
  rw [isNaN_iff] at noNumber
  have fits := number.code_lt
  have last := format.infinityCode_add_hidden
  obtain ⟨fraction, split⟩ := Nat.exists_eq_add_of_le (Nat.le_of_lt noNumber)
  rw [split, format.infinityCode_add_mod_hidden (by omega)]

theorem quietBit_le_of_quiet
    {number : Binary format}
    (noNumber : number.isNaN = true)
    (quiet : number.isSignalling = false) :
    format.quietBit ≤ number.code % format.hidden := by
  have code := code_of_isNaN noNumber
  simp only [isSignalling, noNumber, Bool.true_and, decide_eq_false_iff_not] at quiet
  omega

theorem convert_of_isNaN
    {number : Binary source}
    (noNumber : number.isNaN = true) :
    number.convert target = convertNaN target number := by
  rw [convert, if_pos noNumber]

theorem code_convertNaN_mod_hidden
    (target : Format)
    (number : Binary source) :
    (convertNaN target number).code % target.hidden =
      quieten target (alignFraction source target (number.code % source.hidden)) := by
  rw [convertNaN, target.infinityCode_add_mod_hidden (quieten_lt_hidden ..)]

/-- Conversion leaves no signalling NaN. -/
theorem isSignalling_convert
    (target : Format)
    (number : Binary source) :
    (number.convert target).isSignalling = false := by
  rcases Bool.eq_false_or_eq_true number.isNaN with noNumber | someNumber
  · rw [convert_of_isNaN noNumber, isSignalling, isNaN_convertNaN, Bool.true_and,
      decide_eq_false_iff_not]
    simp only [convertNaN, quieten]
    omega
  · apply isSignalling_of_isNaN_eq_false
    rw [isNaN_convert, someNumber]

/-- The low bits of a pattern are the code. -/
theorem toPattern_emod_codeCount
    (number : Binary format) :
    number.toPattern % format.codeCount = number.code := by
  have fits := number.code_lt
  have reduced : (number.code : Int) % format.codeCount = number.code :=
    Int.emod_eq_of_lt (by omega) (by omega)
  rw [toPattern]
  split
  · rw [Int.sub_emod_right, reduced]
  · exact reduced

theorem signallingPattern_toPattern_iff
    (number : Binary format) :
    format.SignallingPattern number.toPattern ↔ number.isSignalling = true := by
  rw [Format.SignallingPattern, toPattern_emod_codeCount, isSignalling,
    Bool.and_eq_true, isNaN_iff, decide_eq_true_eq]
  omega

end Binary

/-- Conversion back from a wider format returns a quiet NaN with its payload. -/
theorem Format.Within.convertNaN_convertNaN
    {source target : Format}
    (within : source.Within target)
    {number : Binary source}
    (noNumber : number.isNaN = true)
    (quiet : number.isSignalling = false) :
    convertNaN source (convertNaN target number) = number := by
  have fraction_lt : number.code % source.hidden < source.hidden :=
    Nat.mod_lt _ source.hidden_pos
  have quietFraction := quietBit_le_of_quiet noNumber quiet
  have wideQuiet :
      target.quietBit ≤ alignFraction source target (number.code % source.hidden) := by
    rw [alignFraction, if_pos within.fractionBits_le, within.quietBit_eq_mul]
    exact Nat.mul_le_mul_right _ quietFraction
  have wideFits :
      alignFraction source target (number.code % source.hidden) < target.hidden := by
    rw [alignFraction, if_pos within.fractionBits_le, within.hidden_eq_mul]
    exact Nat.mul_lt_mul_of_pos_right fraction_lt (Nat.two_pow_pos _)
  apply Binary.ext
  · rfl
  · calc
      (convertNaN source (convertNaN target number)).code
          = source.infinityCode +
              quieten source
                (alignFraction target source
                  ((convertNaN target number).code % target.hidden)) := rfl
      _ = source.infinityCode + quieten source (number.code % source.hidden) := by
        rw [code_convertNaN_mod_hidden, quieten_of_quietBit_le wideQuiet wideFits,
          within.alignFraction_alignFraction]
      _ = source.infinityCode + number.code % source.hidden := by
        rw [quieten_of_quietBit_le quietFraction fraction_lt]
      _ = number.code := (code_of_isNaN noNumber).symm

namespace Width

variable (width : Width)

/-- Rounding the double that a number was widened to returns the number, a quiet NaN included. -/
theorem round_widen_of_quiet
    {number : Binary width.format}
    (quiet : number.isSignalling = false) :
    width.round (width.widen number) = number := by
  rcases Bool.eq_false_or_eq_true number.isNaN with noNumber | someNumber
  · cases width with
    | single =>
        have wideNoNumber : (number.convert .binary64).isNaN = true := by
          rw [isNaN_convert, noNumber]
        rw [widen, round, convert_of_isNaN wideNoNumber, convert_of_isNaN noNumber]
        exact Format.binary32_within_binary64.convertNaN_convertNaN noNumber quiet
    | double => rfl
  · exact width.round_widen someNumber

/-- A double that was narrowed has the pattern it had before. -/
theorem toPattern_narrow
    (number : Double) :
    width.toPattern (width.narrow number) = width.toPattern number := by
  cases width with
  | single =>
      have quiet : (single.round number).isSignalling = false :=
        isSignalling_convert ..
      rw [toPattern, narrow, single.round_widen_of_quiet quiet, toPattern]
  | double => rfl

theorem codeCount_eq_two_pow :
    (width.format.codeCount : Int) = 2 ^ (width.bits - 1) := by
  cases width <;> decide

/-- An integer in the signed range of a width is the pattern of one of its numbers. -/
theorem exists_toPattern_eq
    {pattern : Int}
    (lower : -2 ^ (width.bits - 1) ≤ pattern)
    (upper : pattern < 2 ^ (width.bits - 1)) :
    ∃ number : Binary width.format,
      Binary.ofPattern? pattern = some number ∧ number.toPattern = pattern := by
  rw [← codeCount_eq_two_pow] at lower upper
  obtain ⟨number, read⟩ :=
    Option.isSome_iff_exists.mp (Binary.ofPattern?_isSome_iff.mpr ⟨lower, upper⟩)
  exact ⟨number, read, toPattern_of_ofPattern? read⟩

theorem ofPattern?_eq_none
    {pattern : Int}
    (outside : ¬ (-2 ^ (width.bits - 1) ≤ pattern ∧ pattern < 2 ^ (width.bits - 1))) :
    width.ofPattern? pattern = none := by
  rw [← codeCount_eq_two_pow, ← Binary.ofPattern?_isSome_iff, Bool.not_eq_true,
    Option.isSome_eq_false_iff, Option.isNone_iff_eq_none] at outside
  rw [ofPattern?, outside, Option.map_none]

end Width

namespace Value

variable {width : Width} {pattern : Int}

theorem ofPattern_integer_of_some
    {number : Double}
    (read : width.ofPattern? pattern = some number) :
    ofPattern (.leaf (.integer pattern)) width = .ok number := by
  show scalarOfPattern (.integer pattern) width = _
  simp [scalarOfPattern, Scalar.truncate, read, bind, Except.bind, pure, Except.pure]

theorem ofPattern_integer_of_none
    (unread : width.ofPattern? pattern = none) :
    ofPattern (.leaf (.integer pattern)) width =
      .error (.patternOutOfRange width pattern) := by
  show scalarOfPattern (.integer pattern) width = _
  simp [scalarOfPattern, Scalar.truncate, unread, bind, Except.bind]
  rfl

/--
The pattern of a double, which narrowing leaves as it is, is read as that
double narrowed, bit for bit.  An integer in the signed range of the width is
read as a double whose pattern it is, a signalling NaN apart; any other
integer is refused.
-/
theorem pattern_roundTrip
    (width : Width) :
    (∀ number : Double,
      width.toPattern (width.narrow number) = width.toPattern number ∧
        ∃ pattern,
          toPattern (.leaf (.double number)) width = .ok pattern ∧
            ofPattern (.leaf (.integer pattern)) width = .ok (width.narrow number)) ∧
      (∀ pattern : Int,
        -2 ^ (width.bits - 1) ≤ pattern → pattern < 2 ^ (width.bits - 1) →
        ¬ width.format.SignallingPattern pattern →
        ∃ number,
          ofPattern (.leaf (.integer pattern)) width = .ok number ∧
            toPattern (.leaf (.double number)) width = .ok pattern) ∧
      ∀ pattern : Int,
        ¬ (-2 ^ (width.bits - 1) ≤ pattern ∧ pattern < 2 ^ (width.bits - 1)) →
        ofPattern (.leaf (.integer pattern)) width =
          .error (.patternOutOfRange width pattern) := by
  refine ⟨?_, ?_, ?_⟩
  · intro number
    refine ⟨width.toPattern_narrow number, width.toPattern number, rfl, ?_⟩
    apply ofPattern_integer_of_some
    rw [Width.ofPattern?, Width.toPattern, ofPattern?_toPattern, Option.map_some,
      Width.narrow]
  · intro pattern lower upper quiet
    obtain ⟨number, read, rfl⟩ := width.exists_toPattern_eq lower upper
    rw [signallingPattern_toPattern_iff, Bool.not_eq_true] at quiet
    refine ⟨width.widen number, ofPattern_integer_of_some ?_, ?_⟩
    · rw [Width.ofPattern?, read, Option.map_some]
    · show Except.ok (width.round (width.widen number)).toPattern = _
      rw [width.round_widen_of_quiet quiet]
  · intro pattern outside
    exact ofPattern_integer_of_none (width.ofPattern?_eq_none outside)

/-- A negative quiet NaN with a full payload, and the integer after the last pattern. -/
theorem pattern_roundTrip_of_limits :
    ¬ Width.single.format.SignallingPattern (-1) ∧
      (∃ number,
        ofPattern (.leaf (.integer (-1))) .single = .ok number ∧
          toPattern (.leaf (.double number)) .single = .ok (-1)) ∧
      ofPattern (.leaf (.integer (2 ^ 31))) .single =
        .error (.patternOutOfRange .single (2 ^ 31)) :=
  ⟨by decide,
    (pattern_roundTrip .single).2.1 (-1) (by decide) (by decide) (by decide),
    (pattern_roundTrip .single).2.2 (2 ^ 31) (by decide)⟩

/-- A signalling NaN is read, but its double has the pattern of a quiet one. -/
example :
    (ofPattern (.leaf (.integer 0x7f800001)) .single).bind
        (fun number => toPattern (.leaf (.double number)) .single) =
      .ok 0x7fc00001 := by
  decide +kernel

end Value

end Closeness
