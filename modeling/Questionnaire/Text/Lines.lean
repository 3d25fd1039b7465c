import Questionnaire.Text.Basic

/-!
# Lines

A line ends at a line feed, and a carriage return directly before that line
feed belongs to the ending.  A text that ends in a line feed has no further
empty line after it.

## Main definitions

* `Text.lines` — the lines of a text without their endings.
* `Text.unlines` — rows written one after the other, each closed by a line feed.
-/

namespace Questionnaire.Text

/-- The line without one closing carriage return. -/
def dropReturn (line : Text) : Text :=
  if line.getLast? = some '\r' then line.dropLast else line

/-- The lines of a text given by its stretches between line feeds: all but the
last of them end in a line feed, and an empty last one is no line. -/
def linesOfPieces : List Text → List Text
  | [] => []
  | [last] => if last.isEmpty then [] else [last]
  | line :: next :: more => dropReturn line :: linesOfPieces (next :: more)

/-- The lines of a text, without their endings. -/
def lines (t : Text) : List Text := linesOfPieces (t.splitOn '\n')

/-- The rows one after the other, each closed by a line feed. -/
def unlines (rows : List Text) : Text := rows.flatMap (· ++ ['\n'])

end Questionnaire.Text
