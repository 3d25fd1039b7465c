/-!
# Texts

A text is the list of its characters.  Everything the library reads, stores and
writes is a text in this sense; columns count characters, and names are ordered
by code point, which is the lexicographic order of these lists.

## Main definitions

* `Text` — a list of characters.
* `Text.strip p t` — the text without the characters satisfying `p` at its ends.
* `Text.hexDigit?` — the value of a hexadecimal digit.
-/

namespace Questionnaire

/-- A text is the list of its characters. -/
abbrev Text := List Char

namespace Text

/-- The text without the longest run satisfying `p` at either end. -/
def strip (p : Char → Bool) (t : Text) : Text :=
  ((t.dropWhile p).reverse.dropWhile p).reverse

/-- The value of a hexadecimal digit of either case. -/
def hexDigit? (c : Char) : Option Nat :=
  if c.isDigit then some (c.toNat - '0'.toNat)
  else if 'a' ≤ c && c ≤ 'f' then some (c.toNat - 'a'.toNat + 10)
  else if 'A' ≤ c && c ≤ 'F' then some (c.toNat - 'A'.toNat + 10)
  else none

end Text

end Questionnaire
