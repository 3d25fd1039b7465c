import Questionnaire.Json.Tags
import Questionnaire.Template.Config

/-!
# Dumps

A dump shows everything that a template defines as indented JSON.

## Main definitions

* `Config.toJson` — the configuration as an object.
* `Config.dump` — its indented text, closed by a line feed.
-/

namespace Questionnaire

open Json

/-- The seconds and nanoseconds of an interval. -/
def Interval.toJson (i : Interval) : Json :=
  .object [("secs".toList, .natural i.seconds), ("nanos".toList, .natural i.nanoseconds)]

/-- The channels of a color. -/
def Color.toJson (c : Color) : Json :=
  .object [(['r'], .real c.red), (['g'], .real c.green), (['b'], .real c.blue)]

/-- The label and the tag of an option. -/
def Answer.toJson (a : Answer) : Json :=
  .object [("name".toList, .text a.name), ("tag".toList, .text a.tag)]

/-- A question under the word for its kind; the two kinds of choices share one
word and have a field for their difference. -/
def Question.toJson : Question → Json
  | .prompt kind t => .object [("type".toList, .text kind.word), ("text".toList, .text t)]
  | .choice kind t options =>
    .object [("type".toList, .text "options".toList), ("kind".toList, .text kind.word),
      ("text".toList, .text t), ("options".toList, .list (options.map Answer.toJson))]

/-- Everything that a template defines. -/
def Config.toJson (c : Config) : Json :=
  let s := c.settings
  .object
    [("default_source".toList, .text s.defaultSource),
     ("nameless_tags".toList, c.tags.nameless.toJson),
     ("sourceless_tags".toList, c.tags.sourceless.toJson),
     ("tagless_tags".toList, c.tags.tagless.toJson),
     ("conditional_tags".toList, c.rules.toJson),
     ("default_safety".toList, .text s.defaultSafety.word),
     ("max_open_files".toList, .natural s.maxOpenFiles),
     ("update_interval".toList, s.updateInterval.toJson),
     ("max_image_buffer_size".toList, .natural s.maxImageBuffer),
     ("background_color_one".toList, s.backgroundOne.toJson),
     ("background_color_two".toList, s.backgroundTwo.toJson),
     ("background_square_width".toList, .natural s.squareWidth),
     ("keybinds".toList, .list (s.keybinds.map .text)),
     ("questions".toList, .list (c.questions.map Question.toJson)),
     ("default_image_quality".toList, .text s.defaultQuality.word)]

/-- The indented text of a configuration, closed by a line feed. -/
def Config.dump (c : Config) : Text := c.toJson.pretty ++ ['\n']

end Questionnaire
