import Questionnaire.Template.Key

/-!
# Questions

A questionnaire asks its questions in order.  A prompt is answered freely; a
choice is answered by its options, each of which has a label and may have a tag.

## Main definitions

* `Answer` — an option of a choice.
* `Question` — a prompt or a choice.
* `Question.kindName` — the word for the kind of a question.
-/

namespace Questionnaire

/-- An option of a choice; an empty tag selects nothing. -/
structure Answer where
  /-- The label that is shown. -/
  name : Text
  /-- The tag that is applied. -/
  tag : Text
  deriving DecidableEq, Repr

/-- A question with its text. -/
inductive Question where
  /-- A question that is answered freely. -/
  | prompt (kind : Prompt) (text : Text)
  /-- A question that is answered by its options, in order. -/
  | choice (kind : Choice) (text : Text) (options : List Answer)
  deriving DecidableEq, Repr

/-- The word for a kind of prompt. -/
def Prompt.word : Prompt → Text
  | .entry => "entry".toList
  | .sessionTags => "session_tags".toList
  | .name => "name".toList
  | .source => "source".toList
  | .safety => "safety".toList
  | .imageTagsEntry => "image_tags_entry".toList

/-- The word for a kind of choice. -/
def Choice.word : Choice → Text
  | .radio => "radio".toList
  | .check => "check".toList

theorem Prompt.word_injective : Function.Injective word := by
  intro a b
  cases a <;> cases b <;> decide

theorem Choice.word_injective : Function.Injective word := by
  intro a b
  cases a <;> cases b <;> decide

namespace Question

/-- The text of a question. -/
def text : Question → Text
  | .prompt _ t => t
  | .choice _ t _ => t

/-- The options of a choice; a prompt has none. -/
def options : Question → List Answer
  | .prompt _ _ => []
  | .choice _ _ options => options

/-- The word for the kind of a question. -/
def kindName : Question → Text
  | .prompt kind _ => kind.word
  | .choice kind _ _ => kind.word

end Question

end Questionnaire
