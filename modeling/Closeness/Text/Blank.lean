/-!
# White space

The characters that separate words: the five layout controls, the space, and
the spaces and separators outside ASCII.  `trim` removes them at both ends of
a text.
-/

namespace Closeness.Text

/-- A character of the property White_Space. -/
def isBlank (character : Char) : Bool :=
  let code := character.toNat
  (0x9 ≤ code && code ≤ 0xd) || code == 0x20 || code == 0x85 || code == 0xa0 ||
    code == 0x1680 || (0x2000 ≤ code && code ≤ 0x200a) || code == 0x2028 ||
    code == 0x2029 || code == 0x202f || code == 0x205f || code == 0x3000

/-- Without the characters at the end that satisfy a condition. -/
def dropTrailing (condition : Char → Bool) (text : List Char) : List Char :=
  (text.reverse.dropWhile condition).reverse

/-- Without the white space at both ends. -/
def trim (text : List Char) : List Char :=
  dropTrailing isBlank (text.dropWhile isBlank)

/-- What is dropped satisfies the condition. -/
theorem exists_dropTrailing_append
    (condition : Char → Bool)
    (text : List Char) :
    ∃ dropped, text = dropTrailing condition text ++ dropped ∧
      ∀ character ∈ dropped, condition character = true := by
  refine ⟨(text.reverse.takeWhile condition).reverse, ?_, ?_⟩
  · rw [dropTrailing, ← List.reverse_append, List.takeWhile_append_dropWhile,
      List.reverse_reverse]
  · intro character member
    rw [List.mem_reverse] at member
    exact List.all_eq_true.mp List.all_takeWhile character member

end Closeness.Text
