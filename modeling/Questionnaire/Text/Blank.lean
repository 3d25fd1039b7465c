import Questionnaire.Text.CodeRange

/-!
# Blanks

Blanks are the characters with the Unicode property White_Space.  They separate
the words of a list, and literals ignore them at either end.

## Main definitions

* `Text.isBlank` — the property.
* `Text.trim` — the text without the blanks at its ends.
* `Text.words` — the maximal runs without a blank, in order.
-/

namespace Questionnaire.Text

/-- The codes of the property White_Space. -/
def blankRanges : List CodeRange :=
  [(0x9, 0xd), (0x20, 0x20), (0x85, 0x85), (0xa0, 0xa0), (0x1680, 0x1680), (0x2000, 0x200a),
   (0x2028, 0x2029), (0x202f, 0x202f), (0x205f, 0x205f), (0x3000, 0x3000)]

/-- The character has the property White_Space. -/
def isBlank (c : Char) : Bool := CodeRange.covers blankRanges c

/-- The text without the blanks at its ends. -/
def trim (t : Text) : Text := strip isBlank t

/-- The maximal runs without a blank, in order. -/
def words (t : Text) : List Text := (t.splitOnP isBlank).filter (!·.isEmpty)

theorem ne_nil_of_mem_words {t word : Text} (h : word ∈ words t) : word ≠ [] := by
  have hword := (List.mem_filter.mp h).2
  simpa using hword

end Questionnaire.Text
