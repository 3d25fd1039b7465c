import Questionnaire.Template.Config
import Questionnaire.Text.Lines

/-!
# Summaries

A summary counts what a template defines and lists its settings, one row each.

## Main definitions

* `Config.kindCounts` — the kinds of questions in ascending order, with their
  numbers of questions.
* `Config.summaryRows` — the rows of a summary.
* `Config.summary` — the rows, each closed by a line feed.
-/

namespace Questionnaire

open Text

/-- The number of questions of each kind that is used, in ascending order. -/
def Config.kindCounts (c : Config) : Index Nat :=
  c.questions.foldl
    (fun counts question => counts.alter question.kindName fun n => n.getD 0 + 1) []

/-- A row that names a thing and says what it is. -/
def summaryRow (name value : Text) : Text := name ++ ": ".toList ++ value

/-- The rows of a summary. -/
def Config.summaryRows (c : Config) : List Text :=
  let s := c.settings
  let tagNames := fun (r : Registry) => [' '].intercalate r.names
  [summaryRow "questions".toList (Numeral.write c.questions.length)] ++
  c.kindCounts.map (fun entry => summaryRow (' ' :: ' ' :: entry.1) (Numeral.write entry.2)) ++
  [summaryRow "alias triggers".toList (Numeral.write c.rules.triggers.length),
   summaryRow "nameless tags".toList (tagNames c.tags.nameless),
   summaryRow "sourceless tags".toList (tagNames c.tags.sourceless),
   summaryRow "tagless tags".toList (tagNames c.tags.tagless),
   summaryRow "default source".toList (quoted s.defaultSource),
   summaryRow "default safety".toList s.defaultSafety.word,
   summaryRow "max open files".toList (Numeral.write s.maxOpenFiles),
   summaryRow "update interval".toList s.updateInterval.write,
   summaryRow "max image buffer".toList (Numeral.write s.maxImageBuffer ++ " bytes".toList),
   summaryRow "background".toList
     (s.backgroundOne.hex ++ " / ".toList ++ s.backgroundTwo.hex ++ " (".toList ++
       Numeral.write s.squareWidth ++ " px squares)".toList),
   summaryRow "image quality".toList s.defaultQuality.title,
   summaryRow "keybinds".toList (Numeral.write s.keybinds.length)]

/-- The summary of a configuration. -/
def Config.summary (c : Config) : Text := unlines c.summaryRows

end Questionnaire
