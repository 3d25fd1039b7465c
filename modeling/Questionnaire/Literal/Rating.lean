import Questionnaire.Text.Basic

/-!
# Ratings

The content rating of an image and the scaling quality of its display, each a
choice among a few words with fixed spellings.

## Main definitions

* `Safety`, `Quality` — the choices.
* `Safety.read?`, `Quality.read?` — the choice that a spelling stands for.
* `Safety.refusal`, `Quality.refusal` — what is said about any other text.
-/

namespace Questionnaire

/-- The content rating of an image. -/
inductive Safety where
  /-- Fit for any audience. -/
  | safe
  /-- On the border. -/
  | questionable
  /-- Explicit content. -/
  | explicit
  deriving DecidableEq, Repr

namespace Safety

/-- The word for a rating. -/
def word : Safety → Text
  | safe => "safe".toList
  | questionable => "questionable".toList
  | explicit => "explicit".toList

/-- The ratings, from the mildest on. -/
def all : List Safety := [safe, questionable, explicit]

/-- The accepted spellings of a rating: its word and the first letter of it, each
in lowercase or with a capital. -/
def spellings : Safety → List Text
  | safe => ["safe".toList, "Safe".toList, "s".toList, "S".toList]
  | questionable =>
    ["questionable".toList, "Questionable".toList, "q".toList, "Q".toList]
  | explicit => ["explicit".toList, "Explicit".toList, "e".toList, "E".toList]

/-- The rating that a text spells. -/
def read? (t : Text) : Option Safety := all.find? (·.spellings.contains t)

/-- What is said about a text that spells no rating. -/
def refusal (t : Text) : Text :=
  "invalid safety rating '".toList ++ t ++
    "': expected safe, questionable or explicit".toList

end Safety

/-- How an image is scaled for display. -/
inductive Quality where
  /-- To the nearest pixel. -/
  | fast
  /-- With a filter. -/
  | smooth
  deriving DecidableEq, Repr

namespace Quality

/-- The word for a quality. -/
def word : Quality → Text
  | fast => "fast".toList
  | smooth => "smooth".toList

/-- The name of a quality in a summary. -/
def title : Quality → Text
  | fast => "Fast".toList
  | smooth => "Smooth".toList

/-- The qualities. -/
def all : List Quality := [fast, smooth]

/-- The accepted spellings of a quality: its word and the first letter of it, each
in lowercase or with a capital. -/
def spellings : Quality → List Text
  | fast => ["fast".toList, "Fast".toList, "f".toList, "F".toList]
  | smooth => ["smooth".toList, "Smooth".toList, "s".toList, "S".toList]

/-- The quality that a text spells. -/
def read? (t : Text) : Option Quality := all.find? (·.spellings.contains t)

/-- What is said about a text that spells no quality. -/
def refusal (t : Text) : Text :=
  "invalid image quality '".toList ++ t ++ "': expected fast or smooth".toList

end Quality

end Questionnaire
