import Questionnaire.CommandLine.Arguments
import Questionnaire.CommandLine.Files
import Questionnaire.Report.Dump
import Questionnaire.Report.Summary
import Questionnaire.Report.TokenList

/-!
# Running a command

A command turns the text of a template into a report, or into one error.

## Main definitions

* `RunError`, `RunError.message` — why there is no report.
* `Command.run` — the report of a command on a template.
* `Invocation.run` — the report of an invocation, given what its path holds.
-/

namespace Questionnaire

/-- Why there is no report. -/
inductive RunError where
  /-- The file cannot be read. -/
  | unreadable (path : Text) (fault : ReadFault)
  /-- The template has an error, reported with its source. -/
  | invalid (path : Text) (error : TemplateError) (source : Text)

/-- What is said when there is no report; the path comes with it. -/
def RunError.message : RunError → Text
  | .unreadable path fault =>
    "failed to read ".toList ++ path ++ ": ".toList ++ fault.message
  | .invalid path error source => path ++ ": ".toList ++ error.report source

/-- The line or lines that a program prints for an error. -/
def RunError.line (e : RunError) : Text := "error: ".toList ++ e.message ++ ['\n']

/-- The report of a command on a template. -/
def Command.run (command : Command) (source : Text) : Except TemplateError Text :=
  match command with
  | .check => (compile source).map Config.summary
  | .tokens => (tokenize source).map tokenList
  | .dump => (compile source).map Config.dump

/-- The report of an invocation, given what its path holds. -/
def Invocation.run (i : Invocation) (content : Except ReadFault Text) : Except RunError Text := do
  let source ← content.mapError (.unreadable i.path)
  (i.command.run source).mapError (.invalid i.path · source)

end Questionnaire
