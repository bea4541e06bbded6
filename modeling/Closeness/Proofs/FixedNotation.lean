import Closeness.Proofs.CorrectRounding
import Closeness.Proofs.DecimalPlaces
import Closeness.Proofs.ScientificText
import Closeness.Value.Operations

/-!
# Trimmed fixed notation

A `Numeral` is a decimal text in trimmed form: perhaps a sign, whole digits
without superfluous zeros at the start, a point, and at least one digit after
it, with superfluous zeros at the end left out.

The trimmed text of a finite number is a numeral.  Trimming works on the whole
text, but it stops at the point at the latest, so it removes zeros of the
fraction only, and these do not contribute to the value.  What is left is the
number, rounded to the count of places.
-/

namespace Closeness

namespace Text

variable {condition : Char → Bool}

/-- Dropping stops at the last character that does not satisfy the condition. -/
theorem dropTrailing_append_cons
    {stop : Char}
    (stays : condition stop = false)
    (front rest : List Char) :
    dropTrailing condition (front ++ stop :: rest) =
      front ++ stop :: dropTrailing condition rest := by
  rw [dropTrailing, dropTrailing, List.reverse_append, List.reverse_cons, List.append_assoc,
    List.singleton_append, List.dropWhile_append]
  split
  · next nothingKept =>
    rw [List.isEmpty_iff] at nothingKept
    simp [nothingKept, stays]
  · simp

theorem getLast?_dropTrailing
    {text : List Char}
    {last : Char}
    (ends : (dropTrailing condition text).getLast? = some last) :
    condition last = false := by
  rw [dropTrailing, List.getLast?_reverse] at ends
  have stops := List.head?_dropWhile_not condition text.reverse
  rw [ends] at stops
  exact stops

end Text

/-- The digits of a number start with a zero only if it is zero. -/
theorem decimalDigits_of_head?_eq_zero
    {value : Nat}
    (starts : (decimalDigits value).head? = some '0') :
    decimalDigits value = ['0'] := by
  induction value using Nat.strong_induction_on with
  | _ value ih =>
    rcases Nat.lt_or_ge value 10 with short | long
    · rw [decimalDigits, Nat.toDigits_of_lt_base short] at starts ⊢
      rw [List.head?_singleton, Option.some.injEq] at starts
      rw [starts]
    · -- Of more than one digit, all but the last are the digits of a smaller number.
      exfalso
      have smaller : value / 10 < value :=
        Nat.div_lt_self (by omega) (by decide)
      rw [decimalDigits, Nat.toDigits_of_base_le (by decide) long,
        List.head?_append_of_ne_nil _ Nat.toDigits_ne_nil] at starts
      have quotient := Nat.ofDigitChars_ten_toDigits (n := value / 10)
      rw [show Nat.toDigits 10 (value / 10) = ['0'] from ih _ smaller starts] at quotient
      have zero : Nat.ofDigitChars 10 ['0'] 0 = 0 := by decide
      omega

namespace Decimal

/-- A decimal text in trimmed form. -/
@[ext]
structure Numeral where
  /-- The text starts with a minus. -/
  negative : Bool
  /-- The digits before the point. -/
  whole : List Char
  /-- The digits after the point. -/
  fraction : List Char
  whole_ne_nil : whole ≠ []
  fraction_ne_nil : fraction ≠ []
  isDigit_of_mem : ∀ character ∈ whole ++ fraction, character.isDigit = true
  /-- A zero at the start stands alone. -/
  whole_eq_of_head? : whole.head? = some '0' → whole = ['0']
  /-- A zero at the end stands alone. -/
  fraction_eq_of_getLast? : fraction.getLast? = some '0' → fraction = ['0']

/-- The rational that digits before and after a point denote. -/
def digitsValue (whole fraction : List Char) : ℚ :=
  Nat.ofDigitChars 10 (whole ++ fraction) 0 / 10 ^ fraction.length

namespace Numeral

variable (numeral : Numeral)

/-- A numeral as it is written. -/
def text : List Char :=
  sign numeral.negative ++ numeral.whole ++ '.' :: numeral.fraction

/-- The rational that a numeral denotes. -/
def value : ℚ :=
  if numeral.negative then -digitsValue numeral.whole numeral.fraction
  else digitsValue numeral.whole numeral.fraction

/-- The sign of a text is that of its numeral, since no digit is a sign. -/
theorem takeSign_text :
    takeSign numeral.text =
      (numeral.negative, numeral.whole ++ '.' :: numeral.fraction) := by
  have unsigned :
      takeSign (numeral.whole ++ '.' :: numeral.fraction) =
        (false, numeral.whole ++ '.' :: numeral.fraction) := by
    obtain ⟨first, rest, whole⟩ := List.exists_cons_of_ne_nil numeral.whole_ne_nil
    have digit : first.isDigit = true :=
      numeral.isDigit_of_mem first (by simp [whole])
    rw [whole]
    exact takeSign_of_isDigit digit _
  rw [text, List.append_assoc]
  exact takeSign_sign_append numeral.negative unsigned

theorem takeDigits_whole_append :
    takeDigits (numeral.whole ++ '.' :: numeral.fraction) =
      (numeral.whole, '.' :: numeral.fraction) :=
  takeDigits_append
    (fun character member =>
      numeral.isDigit_of_mem character (List.mem_append_left _ member))
    (by simp)

/-- A text is that of one numeral, so it denotes one rational. -/
theorem text_injective : Function.Injective text := by
  intro left right sameText
  have signs := left.takeSign_text
  rw [sameText, right.takeSign_text, Prod.mk.injEq] at signs
  have digits := left.takeDigits_whole_append
  rw [← signs.2, right.takeDigits_whole_append, Prod.mk.injEq, List.cons.injEq] at digits
  exact Numeral.ext signs.1.symm digits.1.symm digits.2.2.symm

end Numeral

/-- Zeros at the end of a fraction do not contribute to the value. -/
theorem digitsValue_append_zeros
    (whole fraction : List Char)
    (count : Nat) :
    digitsValue whole (fraction ++ List.replicate count '0') = digitsValue whole fraction := by
  rw [digitsValue, digitsValue, ← List.append_assoc, Nat.ofDigitChars_append,
    Nat.ofDigitChars_replicate_zero, List.length_append, List.length_replicate, pow_add]
  push_cast
  rw [mul_comm ((10 : ℚ) ^ fraction.length), mul_div_mul_left _ _ (by positivity)]

/-- A fraction without zeros at the end, save one if nothing else is left. -/
def trimFraction (fraction : List Char) : List Char :=
  let kept := Text.dropTrailing (· == '0') fraction
  if kept = [] then ['0'] else kept

section TrimFraction

variable (fraction : List Char)

theorem exists_dropTrailing_append_zeros :
    ∃ count,
      fraction = Text.dropTrailing (· == '0') fraction ++ List.replicate count '0' := by
  obtain ⟨dropped, split, zeros⟩ := Text.exists_dropTrailing_append (· == '0') fraction
  have replicated : dropped = List.replicate dropped.length '0' :=
    List.eq_replicate_length.mpr fun character member => eq_of_beq (zeros character member)
  exact ⟨dropped.length, replicated ▸ split⟩

theorem digitsValue_trimFraction
    (whole : List Char) :
    digitsValue whole (trimFraction fraction) = digitsValue whole fraction := by
  obtain ⟨count, split⟩ := exists_dropTrailing_append_zeros fraction
  have kept :
      digitsValue whole fraction =
        digitsValue whole (Text.dropTrailing (· == '0') fraction) := by
    conv_lhs => rw [split]
    exact digitsValue_append_zeros ..
  rw [kept, trimFraction]
  split
  · next nothingKept =>
    rw [nothingKept]
    exact digitsValue_append_zeros whole [] 1
  · rfl

theorem trimFraction_ne_nil : trimFraction fraction ≠ [] := by
  rw [trimFraction]
  split
  · exact List.cons_ne_nil _ _
  · next kept => exact kept

theorem trimFraction_eq_of_getLast?
    (ends : (trimFraction fraction).getLast? = some '0') :
    trimFraction fraction = ['0'] := by
  rw [trimFraction] at ends ⊢
  split at ends
  · next nothingKept => exact if_pos nothingKept
  · have notZero := Text.getLast?_dropTrailing ends
    cases notZero

variable {fraction}

theorem isDigit_of_mem_dropTrailing
    (digits : ∀ character ∈ fraction, character.isDigit = true) :
    ∀ character ∈ Text.dropTrailing (· == '0') fraction, character.isDigit = true := by
  obtain ⟨count, split⟩ := exists_dropTrailing_append_zeros fraction
  intro character member
  exact digits character (split ▸ List.mem_append_left _ member)

theorem isDigit_of_mem_trimFraction
    (digits : ∀ character ∈ fraction, character.isDigit = true) :
    ∀ character ∈ trimFraction fraction, character.isDigit = true := by
  rw [trimFraction]
  split
  · intro character member
    rw [List.mem_singleton.mp member]
    rfl
  · exact isDigit_of_mem_dropTrailing digits

/-- Trimming a text trims the digits after its point. -/
theorem trimFixed_append
    (front : List Char)
    (digits : ∀ character ∈ fraction, character.isDigit = true) :
    trimFixed (front ++ '.' :: fraction) = front ++ '.' :: trimFraction fraction := by
  rw [trimFixed, Text.dropTrailing_append_cons (by decide), trimFraction]
  have keptDigits := isDigit_of_mem_dropTrailing digits
  generalize Text.dropTrailing (· == '0') fraction = kept at *
  rcases List.eq_nil_or_concat kept with rfl | ⟨start, last, rfl⟩
  · simp
  · have lastDigit : last.isDigit = true :=
      keptDigits last (by simp)
    have notPoint : last ≠ '.' := by
      rintro rfl
      cases lastDigit
    have ends : (front ++ '.' :: start.concat last).getLast? = some last := by
      rw [List.concat_eq_append, ← List.cons_append, ← List.append_assoc, List.getLast?_concat]
    rw [ends, if_neg (by simpa using notPoint), if_neg (by simp)]

end TrimFraction

/-! ## Fixed notation of whole numbers of units -/

section FixedForm

variable (places units : Nat)

/-- The digits that fixed notation writes after the point. -/
def fractionDigits : List Char :=
  (decimalDigits (units % 10 ^ places)).leftpad places '0'

/-- The numeral of a whole number of units of `10 ^ (-places)`. -/
def Numeral.ofUnits (negative : Bool) : Numeral where
  negative := negative
  whole := decimalDigits (units / 10 ^ places)
  fraction := trimFraction (fractionDigits places units)
  whole_ne_nil := Nat.toDigits_ne_nil
  fraction_ne_nil := trimFraction_ne_nil _
  isDigit_of_mem := by
    intro character member
    rcases List.mem_append.mp member with inWhole | inFraction
    · exact Nat.isDigit_of_mem_toDigits (by decide) (by decide) inWhole
    · exact isDigit_of_mem_trimFraction (fun _ => isDigit_of_mem_leftpad) character inFraction
  whole_eq_of_head? := decimalDigits_of_head?_eq_zero
  fraction_eq_of_getLast? := trimFraction_eq_of_getLast? _

variable {places}

theorem length_fractionDigits
    (positive : 0 < places) :
    (fractionDigits places units).length = places := by
  have fits : (decimalDigits (units % 10 ^ places)).length ≤ places :=
    (Nat.length_toDigits_le_iff (by decide) positive).mpr
      (Nat.mod_lt _ (Nat.pow_pos (by decide)))
  rw [fractionDigits, List.length_leftpad, max_eq_left fits]

/-- Whole and fraction together are the digits of the count of units. -/
theorem digitsValue_fractionDigits
    (positive : 0 < places) :
    digitsValue (decimalDigits (units / 10 ^ places)) (fractionDigits places units) =
      units / 10 ^ places := by
  have joined :
      Nat.ofDigitChars 10
          (decimalDigits (units / 10 ^ places) ++ fractionDigits places units) 0 =
        units := by
    rw [Nat.ofDigitChars_append, Nat.ofDigitChars_eq_ofDigitChars_zero,
      length_fractionDigits units positive, fractionDigits, ofDigitChars_leftpad,
      Nat.ofDigitChars_ten_toDigits]
    exact Nat.div_add_mod ..
  rw [digitsValue, joined, length_fractionDigits units positive]

/-- The trimmed text is the numeral of the units. -/
theorem trimFixed_fixedForm
    (negative : Bool)
    (positive : 0 < places) :
    trimFixed (sign negative ++ fixedForm places units) =
      (Numeral.ofUnits places units negative).text := by
  rw [fixedForm, if_neg positive.ne', ← List.append_assoc]
  exact trimFixed_append _ fun _ => isDigit_of_mem_leftpad

theorem value_ofUnits
    (negative : Bool)
    (positive : 0 < places) :
    (Numeral.ofUnits places units negative).value =
      if negative then -(units / 10 ^ places : ℚ) else units / 10 ^ places := by
  have digits :
      digitsValue (Numeral.ofUnits places units negative).whole
          (Numeral.ofUnits places units negative).fraction =
        units / 10 ^ places := by
    rw [Numeral.ofUnits, digitsValue_trimFraction, digitsValue_fractionDigits units positive]
  rw [Numeral.value, digits]
  rfl

end FixedForm

theorem Style.ofCount_eq_places
    {places : Nat}
    (bounded : places < 2 ^ 31) :
    Style.ofCount places = .ok (.places places) := by
  have notNegative : ¬ (places : Int) < 0 := by
    omega
  have fits : (places : Int) < placesLimit := by
    rw [placesLimit, Nat.pow_eq]
    exact_mod_cast bounded
  rw [Style.ofCount, if_neg notNegative, if_pos fits, Int.toNat_natCast]

end Decimal

open Binary Decimal

namespace Binary

variable {format : Format} {number : Binary format}

theorem trimmed_eq_text
    (finite : number.isFinite = true)
    {places : Nat}
    (positive : 0 < min places format.scale) :
    number.trimmed places =
      (Numeral.ofUnits (min places format.scale)
        (number.roundAt (-((min places format.scale : Nat) : Int))) number.negative).text := by
  rw [trimmed, if_pos finite, fixed, render, isNaN_of_isFinite finite,
    isInfinite_of_isFinite finite]
  exact trimFixed_fixedForm _ number.negative positive

end Binary

namespace Value

theorem toStyle_integer
    {count : Int}
    {style : Style}
    (short : (decimalDigits count.natAbs).length ≤ wholeDigitsLimit)
    (counted : Style.ofCount count = .ok style) :
    toStyle (.leaf (.integer count)) = .ok style := by
  obtain ⟨text, shown⟩ := Scalar.exists_integerToText short
  rw [toStyle, display, Scalar.display, shown]
  simp only [bind, Except.bind, counted, Except.mapError]

theorem toStyle_places
    {places : Nat}
    (bounded : places < 2 ^ 31) :
    toStyle (.leaf (.integer places)) = .ok (.places places) := by
  have limit : 2 ^ 31 ≤ 10 ^ wholeDigitsLimit := by
    decide +kernel
  have short : (decimalDigits places).length ≤ wholeDigitsLimit :=
    (Nat.length_toDigits_le_iff (by decide) (by decide)).mpr (bounded.trans_le limit)
  exact toStyle_integer (by rwa [Int.natAbs_natCast]) (Style.ofCount_eq_places bounded)

theorem trimmed_integer
    {number : Double}
    {places : Nat}
    (finite : number.isFinite = true)
    (bounded : places < 2 ^ 31) :
    trimmed (.leaf (.double number)) (.leaf (.integer places)) =
      .ok (.ofList (number.trimmed places)) := by
  rw [trimmed, toStyle_places bounded]
  simp only [toDouble, Scalar.toDouble, bind, Except.bind, isNaN_of_isFinite finite]
  rfl

/--
The trimmed text of a finite number is a numeral with the sign of the number,
and it denotes the number, rounded to the count of places.
-/
theorem trimmed_denotes_rounded
    {number : Double}
    {places : Nat}
    (finite : number.isFinite = true)
    (positive : 1 ≤ places)
    (bounded : places < 2 ^ 31) :
    ∃ numeral : Numeral,
      trimmed (.leaf (.double number)) (.leaf (.integer places)) =
          .ok (.ofList numeral.text) ∧
        numeral.negative = number.negative ∧
        RoundedAt number.value places numeral.value := by
  have shownPositive : 0 < min places Format.binary64.scale :=
    lt_min positive (by decide)
  have rounded := number.roundedAt_roundAt_min places
  rw [trimmed_integer finite bounded, trimmed_eq_text finite shownPositive]
  refine ⟨_, rfl, rfl, ?_⟩
  rw [value_ofUnits _ _ shownPositive, value_eq]
  split
  · exact rounded.neg
  · exact rounded

/-- Half-way between two tenths a negative quarter goes to the even one. -/
theorem trimmed_denotes_rounded_of_quarter :
    ∃ numeral : Numeral,
      trimmed (.leaf (.double (.ofRatio true Format.binary64.unitsOfOne 4)))
          (.leaf (.integer 1)) =
          .ok (.ofList numeral.text) ∧
        numeral.text = ['-', '0', '.', '2'] ∧
        RoundedAt (-1 / 4) 1 numeral.value := by
  have finite :
      (.ofRatio true Format.binary64.unitsOfOne 4 : Double).isFinite = true := by
    decide +kernel
  have exact :
      (.ofRatio true Format.binary64.unitsOfOne 4 : Double).value = -1 / 4 := by
    decide +kernel
  have text :
      trimmed (.leaf (.double (.ofRatio true Format.binary64.unitsOfOne 4)))
          (.leaf (.integer 1)) =
        .ok (.ofList ['-', '0', '.', '2']) := by
    decide +kernel
  obtain ⟨numeral, written, -, rounded⟩ :=
    @trimmed_denotes_rounded _ 1 finite (by decide) (by decide)
  have same := Except.ok.inj (written.symm.trans text)
  rw [exact] at rounded
  exact ⟨numeral, written, String.ofList_inj.mp same, rounded⟩

end Value

end Closeness
