import Questionnaire.Text.PrintTables

/-!
# The visible form of a text

A text is shown between double quotes so that every character of it can be told
from the output: the quote and the backslash are escaped, and so are characters
that draw nothing or that are drawn onto the character before them.

## Main definitions

* `Text.isPrintable`, `Text.isCombining` — what may stand as it is.
* `Text.hexDigits` — a number in lowercase hexadecimal.
* `Text.escapeChar`, `Text.quoted` — the visible form of a character and of a
  text.
-/

namespace Questionnaire.Text

/-- The character is drawn, or is the space.  A filler holds the place of a letter and is not
drawn, though it counts as one. -/
def isPrintable (c : Char) : Bool :=
  !CodeRange.covers unprintableRanges c && !CodeRange.covers fillerRanges c

/-- The character is drawn onto the one before it.  The halfwidth sound marks continue a
character too, but take a cell of their own. -/
def isCombining (c : Char) : Bool :=
  CodeRange.covers graphemeExtendRanges c && !CodeRange.covers halfwidthSoundMarkRanges c

/-- The number in lowercase hexadecimal, without leading zeros. -/
def hexDigits (n : Nat) : Text := Nat.toDigits 16 n

/-- The visible form of one character between double quotes. -/
def escapeChar (c : Char) : Text :=
  if c = '\x00' then ['\\', '0']
  else if c = '\t' then ['\\', 't']
  else if c = '\r' then ['\\', 'r']
  else if c = '\n' then ['\\', 'n']
  else if c = '"' then ['\\', '"']
  else if c = '\\' then ['\\', '\\']
  else if isCombining c || !isPrintable c then
    ['\\', 'u', '\x7b'] ++ hexDigits c.toNat ++ ['\x7d']
  else [c]

/-- The visible form of a text: its characters escaped, between double quotes. -/
def quoted (t : Text) : Text := '"' :: t.flatMap escapeChar ++ ['"']

end Questionnaire.Text
