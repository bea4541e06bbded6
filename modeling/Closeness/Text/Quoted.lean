import Closeness.Text.Printable

/-!
# Quoted text

A text between quotation marks, with escapes for what would be misread or
cannot be shown.  The mark is an apostrophe, or a double mark when the text
contains an apostrophe and no double mark.
-/

namespace Closeness.Text

/-- The mark that usually encloses a text. -/
def apostrophe : Char :=
  '\x27'

/-- The mark that encloses a text with an apostrophe in it. -/
def doubleMark : Char :=
  '\x22'

/-- The character that starts an escape. -/
def backslash : Char :=
  '\x5c'

/-- The mark that encloses a text. -/
def markFor (text : List Char) : Char :=
  if text.contains apostrophe && !text.contains doubleMark then doubleMark else apostrophe

/-- A code point in lower-case hexadecimal of at least a given length. -/
def hexadecimal (length code : Nat) : List Char :=
  (Nat.toDigits 16 code).leftpad length '0'

/-- The escape of a character by its code point, in the shortest of three lengths. -/
def escapeCode (code : Nat) : List Char :=
  if code < 0x100 then
    backslash :: 'x' :: hexadecimal 2 code
  else if code < 0x10000 then
    backslash :: 'u' :: hexadecimal 4 code
  else
    backslash :: 'U' :: hexadecimal 8 code

/-- A character as it appears between given marks. -/
def escape (mark character : Char) : List Char :=
  if character == mark || character == backslash then [backslash, character]
  else if character == '\t' then [backslash, 't']
  else if character == '\n' then [backslash, 'n']
  else if character == '\r' then [backslash, 'r']
  else if isPrintable character then [character]
  else escapeCode character.toNat

/-- A text between marks. -/
def quote (text : List Char) : List Char :=
  let mark := markFor text
  mark :: text.flatMap (escape mark) ++ [mark]

end Closeness.Text
