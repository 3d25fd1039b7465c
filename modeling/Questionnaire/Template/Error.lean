import Questionnaire.Template.Excerpt
import Questionnaire.Template.Outline
import Questionnaire.Template.Pair
import Questionnaire.Template.Position
import Questionnaire.Template.Settings

/-!
# Errors in templates

A template is refused at a position for a cause: a pair that cannot be read, a
key that does not fit the outline, or a value that does not fit its setting.

## Main definitions

* `Cause`, `Cause.message` — what is wrong, and how it is said.
* `Category` — the three kinds of errors that are told apart.
* `TemplateError` — a cause at a position.
* `TemplateError.report` — the error with an excerpt of the source.
-/

namespace Questionnaire

/-- What is wrong with a template. -/
inductive Cause where
  /-- A pair cannot be read. -/
  | reading (fault : PairFault)
  /-- A key does not fit the outline. -/
  | outline (mark : Mark) (fault : OutlineFault)
  /-- A value does not fit its setting. -/
  | setting (key : Setting) (fault : SettingFault)
  deriving DecidableEq, Repr

/-- How a cause is said; the key at fault comes first. -/
def Cause.message : Cause → Text
  | .reading fault => fault.message
  | .outline mark fault => mark.spelling ++ ": ".toList ++ fault.message
  | .setting key fault => key.spelling ++ ": ".toList ++ fault.message

/-- The kinds of errors that are told apart. -/
inductive Category where
  /-- The text is no sequence of pairs. -/
  | reading
  /-- A pair does not fit. -/
  | fitting
  /-- A value is no color. -/
  | color
  deriving DecidableEq, Repr

/-- The name of a kind of error at the head of a report. -/
def Category.title : Category → Text
  | .reading => "Template syntax".toList
  | .fitting => "Template".toList
  | .color => "Color".toList

/-- The kind of error that a cause is. -/
def Cause.category : Cause → Category
  | .reading _ => .reading
  | .setting _ (.color _) => .color
  | _ => .fitting

/-- A cause at a position. -/
structure TemplateError where
  /-- Where the template is wrong. -/
  position : Position
  /-- What is wrong. -/
  cause : Cause
  deriving DecidableEq, Repr

namespace TemplateError

/-- The kind of error and its position, as the first line of a report. -/
def heading (e : TemplateError) : Text :=
  e.cause.category.title ++ " error at line ".toList ++ Numeral.write e.position.line ++
    ", column ".toList ++ Numeral.write e.position.column

/-- The error with an excerpt of the source it arose in. -/
def report (e : TemplateError) (source : Text) : Text :=
  e.heading ++ ['\n'] ++ e.cause.message ++ ['\n'] ++
    excerpt source e.position.line e.position.column

end TemplateError

end Questionnaire
