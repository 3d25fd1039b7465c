import Questionnaire.Tag.Registry
import Questionnaire.Template.Key

/-!
# Default tags

A template may name tags for images that lack a name, a source or tags.  Every
list that is given adds its words.

## Main definitions

* `DefaultTags` — the three registries.
* `DefaultTags.of list` — the registry of one key.
* `DefaultTags.add list names` — the registries with further names.
-/

namespace Questionnaire

/-- The tags of images that lack something. -/
structure DefaultTags where
  /-- The tags of images without a name. -/
  nameless : Registry
  /-- The tags of images without a source. -/
  sourceless : Registry
  /-- The tags of images without tags. -/
  tagless : Registry
  deriving DecidableEq, Repr

namespace DefaultTags

/-- No tags. -/
def empty : DefaultTags := ⟨.empty, .empty, .empty⟩

/-- The strength that a default tag has. -/
def strength : Strength := 1

/-- The registry of one key. -/
def of (list : TagList) (tags : DefaultTags) : Registry :=
  match list with
  | .nameless => tags.nameless
  | .sourceless => tags.sourceless
  | .tagless => tags.tagless

/-- The registries with the words of a list added to the one of a key. -/
def add (list : TagList) (names : Text) (tags : DefaultTags) : DefaultTags :=
  let more := fun (r : Registry) => r.touchWords (.raise strength) names
  match list with
  | .nameless => { tags with nameless := more tags.nameless }
  | .sourceless => { tags with sourceless := more tags.sourceless }
  | .tagless => { tags with tagless := more tags.tagless }

/-- The words are added to the registry of the key. -/
@[simp] theorem of_add_self (list : TagList) (names : Text) (tags : DefaultTags) :
    (tags.add list names).of list = (tags.of list).touchWords (.raise strength) names := by
  cases list <;> rfl

/-- The registries of the other keys stay as they are. -/
theorem of_add_of_ne {list other : TagList} (h : other ≠ list) (names : Text)
    (tags : DefaultTags) : (tags.add list names).of other = tags.of other := by
  cases list <;> cases other <;> first | rfl | exact absurd rfl h

end DefaultTags

end Questionnaire
