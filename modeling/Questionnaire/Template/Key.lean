import Questionnaire.Text.Basic

/-!
# Keys

A key says what its value is for.  The keys of the outline build questions and
alias rules and depend on the keys before them; the keys of default tags and of
settings may stand anywhere.

## Main definitions

* `Prompt`, `Choice` — the kinds of questions without and with options.
* `Mark` — the keys of the outline.
* `TagList`, `Setting` — the keys of default tags and of settings.
* `Key`, `Key.all` — every key, in the order of the documentation.
* `Key.spelling`, `Key.ofSpelling?` — how keys are written.
-/

namespace Questionnaire

/-- A question that is answered freely. -/
inductive Prompt where
  /-- Tags of one image. -/
  | entry
  /-- Tags of every image of the session. -/
  | sessionTags
  /-- The name of the image. -/
  | name
  /-- The source of the image. -/
  | source
  /-- The content rating of the image. -/
  | safety
  /-- The whole list of tags of the image. -/
  | imageTagsEntry
  deriving DecidableEq, Repr

/-- A question that is answered by its options. -/
inductive Choice where
  /-- Exactly one option. -/
  | radio
  /-- Any number of options. -/
  | check
  deriving DecidableEq, Repr

/-- A key of the outline. -/
inductive Mark where
  /-- A question without options. -/
  | prompt (kind : Prompt)
  /-- A question whose options follow. -/
  | choice (kind : Choice)
  /-- The label of an option. -/
  | optionName
  /-- The tag of an option. -/
  | optionTag
  /-- The triggers of an alias rule. -/
  | aliasFrom
  /-- The dependents of an alias rule. -/
  | aliasTo
  deriving DecidableEq, Repr

/-- A key of default tags. -/
inductive TagList where
  /-- Tags of images without a name. -/
  | nameless
  /-- Tags of images without a source. -/
  | sourceless
  /-- Tags of images without tags. -/
  | tagless
  deriving DecidableEq, Repr

/-- A key of a setting. -/
inductive Setting where
  /-- The source of new images. -/
  | defaultSource
  /-- The rating of new images. -/
  | defaultSafety
  /-- The bound on open files. -/
  | maxOpenFiles
  /-- The time between writes. -/
  | updateInterval
  /-- The bytes for images in memory. -/
  | maxImageBufsize
  /-- The first background color. -/
  | backgroundColorOne
  /-- The second background color. -/
  | backgroundColorTwo
  /-- The width of a background square. -/
  | backgroundSquareWidth
  /-- A keybind. -/
  | keybind
  /-- The scaling quality. -/
  | defaultImageQuality
  deriving DecidableEq, Repr

/-- A key of a template. -/
inductive Key where
  /-- A key of the outline. -/
  | outline (mark : Mark)
  /-- A key of default tags. -/
  | tags (list : TagList)
  /-- A key of a setting. -/
  | setting (s : Setting)
  deriving DecidableEq, Repr

/-- The spelling of the key of a question without options. -/
def Prompt.spelling : Prompt → Text
  | .entry => "ENTRY_QUESTION".toList
  | .sessionTags => "SESSION_TAGS".toList
  | .name => "NAME_QUESTION".toList
  | .source => "SOURCE_QUESTION".toList
  | .safety => "SAFETY_QUESTION".toList
  | .imageTagsEntry => "IMAGE_TAGS_ENTRY".toList

/-- The spelling of the key of a question with options. -/
def Choice.spelling : Choice → Text
  | .radio => "RADIO_QUESTION".toList
  | .check => "CHECK_QUESTION".toList

/-- The spelling of a key of the outline. -/
def Mark.spelling : Mark → Text
  | .prompt kind => kind.spelling
  | .choice kind => kind.spelling
  | .optionName => "OPTION_NAME".toList
  | .optionTag => "OPTION_TAG".toList
  | .aliasFrom => "ALIAS_TAG_FROM".toList
  | .aliasTo => "ALIAS_TAG_TO".toList

/-- The spelling of a key of default tags. -/
def TagList.spelling : TagList → Text
  | .nameless => "NAMELESS_TAG".toList
  | .sourceless => "SOURCELESS_TAG".toList
  | .tagless => "TAGLESS_TAG".toList

/-- The spelling of a key of a setting. -/
def Setting.spelling : Setting → Text
  | .defaultSource => "DEFAULT_SOURCE".toList
  | .defaultSafety => "DEFAULT_SAFETY".toList
  | .maxOpenFiles => "MAX_OPEN_FILES".toList
  | .updateInterval => "UPDATE_INTERVAL".toList
  | .maxImageBufsize => "MAX_IMAGE_BUFSIZE".toList
  | .backgroundColorOne => "IMAGE_BACKGROUND_COLOR_ONE".toList
  | .backgroundColorTwo => "IMAGE_BACKGROUND_COLOR_TWO".toList
  | .backgroundSquareWidth => "IMAGE_BACKGROUND_SQUARE_WIDTH".toList
  | .keybind => "KEYBIND".toList
  | .defaultImageQuality => "DEFAULT_IMAGE_QUALITY".toList

namespace Key

/-- The spelling of a key. -/
def spelling : Key → Text
  | .outline mark => mark.spelling
  | .tags list => list.spelling
  | .setting s => s.spelling

/-- Every key, in the order of the documentation. -/
def all : List Key :=
  [.outline (.choice .radio), .outline (.choice .check), .outline .optionName,
   .outline .optionTag, .outline (.prompt .entry), .outline (.prompt .sessionTags),
   .outline (.prompt .name), .outline (.prompt .source), .setting .defaultSource,
   .tags .nameless, .tags .sourceless, .tags .tagless,
   .outline (.prompt .safety), .setting .defaultSafety, .setting .maxOpenFiles,
   .setting .updateInterval, .setting .maxImageBufsize, .outline .aliasTo,
   .outline .aliasFrom, .setting .backgroundColorOne, .setting .backgroundColorTwo,
   .setting .backgroundSquareWidth, .setting .keybind, .outline (.prompt .imageTagsEntry),
   .setting .defaultImageQuality]

/-- The key of a spelling, case mattering. -/
def ofSpelling? (word : Text) : Option Key := all.find? (·.spelling == word)

/-- A key that is found has the spelling that was looked up. -/
theorem spelling_of_ofSpelling? {word : Text} {key : Key} (h : ofSpelling? word = some key) :
    key.spelling = word := by
  simpa using List.find?_some h

end Key

end Questionnaire
