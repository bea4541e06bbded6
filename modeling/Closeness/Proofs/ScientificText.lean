import Closeness.Decimal.Literal
import Closeness.Decimal.Scientific

/-!
# Reading scientific text

A text in scientific notation consists of characters that reading takes as
they are: it has no white space, no digits of other scripts and no
underscores.  Its digits, point and exponent are found again one after the
other, so it is read as the number nearest to its digits at its exponent.
-/

namespace Closeness

namespace Text

/-- A character that reading neither trims, nor replaces, nor drops. -/
structure IsPlain (character : Char) : Prop where
  not_blank : isBlank character = false
  asciiDigit_eq : asciiDigit character = character
  ne_underscore : (character == '_') = false

instance (character : Char) : Decidable (IsPlain character) :=
  decidable_of_iff
    (isBlank character = false ∧ asciiDigit character = character ∧
      (character == '_') = false)
    ⟨fun ⟨notBlank, same, notUnderscore⟩ => ⟨notBlank, same, notUnderscore⟩,
      fun plain => ⟨plain.not_blank, plain.asciiDigit_eq, plain.ne_underscore⟩⟩

theorem exists_digitChar_eq
    {character : Char}
    (digit : character.isDigit = true) :
    ∃ value : Fin 10, character = value.val.digitChar := by
  obtain ⟨lower, upper⟩ := Char.isDigit_iff_toNat.mp digit
  have lower' : 48 ≤ character.toNat := lower
  have upper' : character.toNat ≤ 57 := upper
  refine ⟨⟨character.toNat - 48, by omega⟩, ?_⟩
  apply Char.toNat_inj.mp
  rw [Nat.toNat_digitChar_of_lt_ten (by omega)]
  exact (Nat.add_sub_cancel' lower').symm

/-- The digits are plain, and case makes no difference to them. -/
theorem digitChar_facts :
    ∀ value : Fin 10,
      IsPlain value.val.digitChar ∧
        value.val.digitChar.toLower = value.val.digitChar := by
  decide

theorem isPlain_of_isDigit
    {character : Char}
    (digit : character.isDigit = true) :
    IsPlain character := by
  obtain ⟨value, rfl⟩ := exists_digitChar_eq digit
  exact (digitChar_facts value).1

theorem toLower_of_isDigit
    {character : Char}
    (digit : character.isDigit = true) :
    character.toLower = character := by
  obtain ⟨value, rfl⟩ := exists_digitChar_eq digit
  exact (digitChar_facts value).2

theorem dropWhile_isBlank_of_isPlain
    {text : List Char}
    (plain : ∀ character ∈ text, IsPlain character) :
    text.dropWhile isBlank = text := by
  cases text with
  | nil => rfl
  | cons character rest =>
      have notBlank :=
        (plain character List.mem_cons_self).not_blank
      simp [notBlank]

theorem trim_of_isPlain
    {text : List Char}
    (plain : ∀ character ∈ text, IsPlain character) :
    trim text = text := by
  rw [trim, dropWhile_isBlank_of_isPlain plain, dropTrailing,
    dropWhile_isBlank_of_isPlain fun character member =>
      plain character (List.mem_reverse.mp member),
    List.reverse_reverse]

theorem map_asciiDigit_of_isPlain
    {text : List Char}
    (plain : ∀ character ∈ text, IsPlain character) :
    text.map asciiDigit = text := by
  rw [List.map_congr_left fun character member => (plain character member).asciiDigit_eq]
  exact List.map_id _

end Text

namespace Decimal

open Text

theorem dropSeparators?_of_isPlain
    (afterDigit : Bool)
    {text : List Char}
    (plain : ∀ character ∈ text, IsPlain character) :
    dropSeparators? afterDigit text = some text := by
  induction text generalizing afterDigit with
  | nil => rfl
  | cons character rest ih =>
      have notUnderscore :=
        (plain character List.mem_cons_self).ne_underscore
      have restRead :=
        ih character.isDigit fun other member =>
          plain other (List.mem_cons_of_mem _ member)
      simp [dropSeparators?, notUnderscore, restRead]

/-- A text of plain characters is read as the literal that it is. -/
theorem read?_of_isPlain
    {format : Format}
    {text : List Char}
    (plain : ∀ character ∈ text, IsPlain character) :
    (read? text : Option (Binary format)) = readLiteral? text := by
  rw [read?, trim_of_isPlain plain, map_asciiDigit_of_isPlain plain,
    dropSeparators?_of_isPlain false plain]
  rfl

theorem takeSign_of_isDigit
    {first : Char}
    (digit : first.isDigit = true)
    (rest : List Char) :
    takeSign (first :: rest) = (false, first :: rest) := by
  unfold takeSign
  split
  · next same =>
    obtain ⟨rfl, -⟩ := List.cons.inj same
    exact absurd digit (by decide)
  · next same =>
    obtain ⟨rfl, -⟩ := List.cons.inj same
    exact absurd digit (by decide)
  · rfl

theorem takeSign_sign_append
    (negative : Bool)
    {text : List Char}
    (unsigned : takeSign text = (false, text)) :
    takeSign (sign negative ++ text) = (negative, text) := by
  cases negative with
  | false => exact unsigned
  | true => rfl

theorem takeDigits_append
    {digits rest : List Char}
    (allDigits : ∀ character ∈ digits, character.isDigit = true)
    (stops : ∀ character ∈ rest.head?, character.isDigit = false) :
    takeDigits (digits ++ rest) = (digits, rest) := by
  have nothingMore :
      rest.takeWhile Char.isDigit = [] ∧ rest.dropWhile Char.isDigit = rest := by
    cases rest with
    | nil => exact ⟨rfl, rfl⟩
    | cons character rest =>
        have notDigit := stops character (by simp)
        simp [notDigit]
  rw [takeDigits, List.takeWhile_append_of_pos allDigits,
    List.dropWhile_append_of_pos allDigits, nothingMore.1, nothingMore.2,
    List.append_nil]

theorem takeDigits_of_isDigit
    {digits : List Char}
    (allDigits : ∀ character ∈ digits, character.isDigit = true) :
    takeDigits digits = (digits, []) := by
  have stops : ∀ character ∈ ([] : List Char).head?, character.isDigit = false := by
    simp
  simpa using takeDigits_append allDigits stops

theorem isDigit_of_mem_leftpad
    {count value : Nat}
    {character : Char}
    (member : character ∈ (decimalDigits value).leftpad count '0') :
    character.isDigit = true := by
  rw [List.leftpad, List.mem_append, List.mem_replicate] at member
  rcases member with ⟨-, rfl⟩ | member
  · decide
  · exact Nat.isDigit_of_mem_toDigits (by decide) (by decide) member

/-- Zeros in front of the digits of a number do not change it. -/
theorem ofDigitChars_leftpad
    (count value : Nat) :
    Nat.ofDigitChars 10 ((decimalDigits value).leftpad count '0') 0 = value := by
  rw [List.leftpad, Nat.ofDigitChars_append, Nat.ofDigitChars_replicate_zero,
    Nat.mul_zero, Nat.ofDigitChars_ten_toDigits]

/-- The exponent that is written is read again. -/
theorem readExponent?_exponentMark
    (exponent : Int) :
    readExponent? (exponentMark exponent) = some exponent := by
  have digitsTaken :
      takeDigits ((decimalDigits exponent.natAbs).leftpad 2 '0') =
        ((decimalDigits exponent.natAbs).leftpad 2 '0', []) :=
    takeDigits_of_isDigit fun _ => isDigit_of_mem_leftpad
  have notEmpty :
      ((decimalDigits exponent.natAbs).leftpad 2 '0').isEmpty = false := by
    rw [List.isEmpty_eq_false_iff, ← List.length_pos_iff, List.length_leftpad]
    omega
  have magnitude := ofDigitChars_leftpad 2 exponent.natAbs
  rw [exponentMark]
  generalize (decimalDigits exponent.natAbs).leftpad 2 '0' = digits at *
  rcases Int.lt_or_le exponent 0 with below | above
  · have signed : -(exponent.natAbs : Int) = exponent := by omega
    rw [if_pos below, readExponent?]
    simp only [takeSign, digitsTaken, notEmpty, magnitude, signed]
    rfl
  · have signed : (exponent.natAbs : Int) = exponent := by omega
    have notBelow : ¬ exponent < 0 := by omega
    rw [if_neg notBelow, readExponent?]
    simp only [takeSign, digitsTaken, notEmpty, magnitude, signed]
    rfl

/-- The point and the exponent are found again behind the digits. -/
theorem readMagnitude?_scientificForm
    {format : Format}
    (negative : Bool)
    {digits : List Char}
    (notEmpty : digits ≠ [])
    (allDigits : ∀ character ∈ digits, character.isDigit = true)
    (exponent : Int) :
    (readMagnitude? negative (scientificForm digits exponent) : Option (Binary format)) =
      some
        (.ofDecimal negative (Nat.ofDigitChars 10 digits 0)
          (exponent - (digits.length - 1))) := by
  have exponentStops :
      ∀ character ∈ (exponentMark exponent).head?, character.isDigit = false := by
    simp [exponentMark]
  cases digits with
  | nil => exact absurd rfl notEmpty
  | cons first others =>
      have firstDigit : ∀ character ∈ [first], character.isDigit = true := by
        simpa using allDigits first List.mem_cons_self
      cases others with
      | nil =>
          have whole :
              takeDigits (first :: exponentMark exponent) =
                ([first], exponentMark exponent) :=
            takeDigits_append firstDigit exponentStops
          have noFraction :
              takeFraction (exponentMark exponent) = ([], exponentMark exponent) :=
            rfl
          simp [scientificForm, readMagnitude?, whole, noFraction,
            readExponent?_exponentMark]
      | cons second more =>
          have whole :
              takeDigits (first :: '.' :: (second :: more ++ exponentMark exponent)) =
                ([first], '.' :: (second :: more ++ exponentMark exponent)) :=
            takeDigits_append firstDigit (by simp)
          have fraction :
              takeFraction ('.' :: (second :: more ++ exponentMark exponent)) =
                (second :: more, exponentMark exponent) :=
            takeDigits_append
              (fun character member =>
                allDigits character (List.mem_cons_of_mem first member))
              exponentStops
          simp only [List.cons_append] at whole fraction
          simp [scientificForm, readMagnitude?, whole, fraction,
            readExponent?_exponentMark]

/-- A text that starts with a digit is no name. -/
theorem readLiteral?_sign_append
    {format : Format}
    (negative : Bool)
    {first : Char}
    (digit : first.isDigit = true)
    (rest : List Char) :
    (readLiteral? (sign negative ++ first :: rest) : Option (Binary format)) =
      readMagnitude? negative (first :: rest) := by
  have split :
      takeSign (sign negative ++ first :: rest) = (negative, first :: rest) :=
    takeSign_sign_append negative (takeSign_of_isDigit digit rest)
  have noName : ∀ (letter : Char) (letters : List Char),
      letter.isDigit = false →
        (String.ofList ((first :: rest).map Char.toLower) ==
          String.ofList (letter :: letters)) = false := by
    intro letter letters notDigit
    rw [beq_eq_false_iff_ne]
    intro same
    have sameFirst : first = letter := by
      simpa [toLower_of_isDigit digit] using congrArg (·.toList.head?) same
    rw [sameFirst, notDigit] at digit
    exact absurd digit (by decide)
  have notNan := noName 'n' ['a', 'n'] (by decide)
  have notInf := noName 'i' ['n', 'f'] (by decide)
  have notInfinity := noName 'i' ['n', 'f', 'i', 'n', 'i', 't', 'y'] (by decide)
  rw [readLiteral?, split]
  dsimp only
  rw [if_neg, if_neg]
  · rw [Bool.not_eq_true, Bool.or_eq_false_iff]
    exact ⟨notInf, notInfinity⟩
  · rw [Bool.not_eq_true]
    exact notNan

theorem isPlain_sign
    (negative : Bool) :
    ∀ character ∈ sign negative, IsPlain character := by
  intro character member
  cases negative with
  | false => exact absurd member List.not_mem_nil
  | true =>
      rw [List.mem_singleton.mp member]
      decide

theorem isPlain_exponentMark
    (exponent : Int) :
    ∀ character ∈ exponentMark exponent, IsPlain character := by
  have signPlain : IsPlain (if exponent < 0 then '-' else '+') := by
    split <;> decide
  intro character member
  rw [exponentMark, List.mem_cons, List.mem_cons] at member
  rcases member with rfl | rfl | member
  · decide
  · exact signPlain
  · exact isPlain_of_isDigit (isDigit_of_mem_leftpad member)

theorem isPlain_scientificForm
    {digits : List Char}
    (allDigits : ∀ character ∈ digits, character.isDigit = true)
    (exponent : Int) :
    ∀ character ∈ scientificForm digits exponent, IsPlain character := by
  intro character member
  rw [scientificForm, List.mem_append, List.mem_append] at member
  rcases member with (member | member) | member
  · exact isPlain_of_isDigit (allDigits character (List.mem_of_mem_take member))
  · split at member
    · exact absurd member List.not_mem_nil
    · rcases List.mem_cons.mp member with rfl | member
      · decide
      · exact isPlain_of_isDigit (allDigits character (List.mem_of_mem_drop member))
  · exact isPlain_exponentMark exponent character member

/-- Scientific text is read as the number nearest to its digits at its exponent. -/
theorem read?_scientificForm
    {format : Format}
    (negative : Bool)
    {digits : List Char}
    (notEmpty : digits ≠ [])
    (allDigits : ∀ character ∈ digits, character.isDigit = true)
    (exponent : Int) :
    (read? (sign negative ++ scientificForm digits exponent) : Option (Binary format)) =
      some
        (.ofDecimal negative (Nat.ofDigitChars 10 digits 0)
          (exponent - (digits.length - 1))) := by
  have plain :
      ∀ character ∈ sign negative ++ scientificForm digits exponent,
        IsPlain character := by
    intro character member
    rcases List.mem_append.mp member with member | member
    · exact isPlain_sign negative character member
    · exact isPlain_scientificForm allDigits exponent character member
  obtain ⟨first, others, rfl⟩ := List.exists_cons_of_ne_nil notEmpty
  obtain ⟨rest, form⟩ :
      ∃ rest, scientificForm (first :: others) exponent = first :: rest :=
    ⟨_, rfl⟩
  rw [read?_of_isPlain plain, ← readMagnitude?_scientificForm negative notEmpty allDigits,
    form]
  exact readLiteral?_sign_append negative (allDigits first List.mem_cons_self) rest

theorem read?_inf
    {format : Format}
    (negative : Bool) :
    (read? (sign negative ++ ['i', 'n', 'f']) : Option (Binary format)) =
      some (.infinity negative) := by
  have plain :
      ∀ character ∈ sign negative ++ ['i', 'n', 'f'], IsPlain character := by
    intro character member
    rcases List.mem_append.mp member with member | member
    · exact isPlain_sign negative character member
    · simp only [List.mem_cons, List.not_mem_nil, or_false] at member
      rcases member with rfl | rfl | rfl <;> decide
  rw [read?_of_isPlain plain, readLiteral?, takeSign_sign_append negative rfl]
  rfl

end Decimal

end Closeness
