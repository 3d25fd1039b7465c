import Questionnaire.Number.Numeral
import Questionnaire.Text.Lines

/-!
# Excerpts

An excerpt shows a place in a source: its line with up to two lines before it and
one after it, each with its number, and under the line a caret at the column.

## Main definitions

* `Excerpt.label` — the number in front of a line.
* `Excerpt.row`, `Excerpt.caret` — a line and the caret under it.
* `excerpt` — the rows around a place.
-/

namespace Questionnaire

open Text

namespace Excerpt

/-- The number in front of a line, in a column of at least four characters. -/
def label (n : Nat) : Text := ' ' :: Numeral.pad ' ' 4 (Numeral.write n) ++ " | ".toList

/-- A line behind its number. -/
def row (n : Nat) (line : Text) : Text := label n ++ line

/-- The caret under a column of line `n`. -/
def caret (n column : Nat) : Text :=
  List.replicate ((label n).length + (column - 1)) ' ' ++ ['^']

/-- The number of the first line that is shown around a line. -/
def first (line : Nat) : Nat := max 1 (line - 2)

/-- The number of the last line that is shown around a line, of `total` lines. -/
def last (total line : Nat) : Nat := min total (line + 1)

/-- The rows around a place, given the lines of the source. -/
def rows (source : List Text) (line column : Nat) : List Text :=
  (List.range' (first line) (last source.length line + 1 - first line)).flatMap fun n =>
    row n (source[n - 1]?.getD []) :: (if n = line then [caret n column] else [])

end Excerpt

/-- The rows around a place of a source, each closed by a line feed. -/
def excerpt (source : Text) (line column : Nat) : Text :=
  unlines (Excerpt.rows (lines source) line column)

end Questionnaire
