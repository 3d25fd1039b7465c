import Questionnaire.Template.Token
import Questionnaire.Text.Lines

/-!
# Token lists

A token list shows each token of a template on a row of its own: its position,
its key and its value in visible form.

## Main definitions

* `Token.row` — the row of a token.
* `tokenList` — the rows, each closed by a line feed.
-/

namespace Questionnaire

open Text

/-- The line and the column with a colon between them. -/
def Position.write (pos : Position) : Text :=
  Numeral.write pos.line ++ [':'] ++ Numeral.write pos.column

/-- The position, the key and the visible form of the value. -/
def Token.row (token : Token) : Text :=
  token.position.write ++ [' '] ++ token.key.spelling ++ [' '] ++ quoted token.value

/-- The rows of tokens, each closed by a line feed. -/
def tokenList (tokens : List Token) : Text := unlines (tokens.map Token.row)

end Questionnaire
