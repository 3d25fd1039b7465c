import Questionnaire.Index
import Questionnaire.Number.Numeral
import Questionnaire.Tag.Strength
import Questionnaire.Text.Blank
import Questionnaire.Text.Lowercase

/-!
# Registries of tags

A registry lists tags with their strengths, in ascending order of their names.
Names are kept in lowercase, so case does not matter to any operation, and an
operation on the empty name does nothing.  A tag that has been touched once
stays listed, possibly at strength zero.

## Main definitions

* `Tag` — a lowercase name with its strength.
* `Registry` — the tags, each under its name.
* `Registry.touch change name` — registers a tag and changes its strength.
* `Registry.register`, `Registry.occurrencesOf` — registers a tag and shows it.
* `Registry.touchWords change list` — the same for every word of a list.
* `Registry.merge`, `Registry.withdraw` — raises or clears every tag of another
  registry by its strength there.
* `Registry.ofEntries`, `Registry.ofWords` — a registry from given tags.
* `Registry.applied` — the tags of positive strength.
* `Registry.groups?`, `Registry.levels` — the applied names by exact strength.
* `Edit` — one change to a registry, as a value.
-/

namespace Questionnaire

open Text

/-- A tag as it is registered. -/
structure Tag where
  /-- The name in lowercase. -/
  name : Text
  /-- How strongly the tag applies. -/
  strength : Strength
  deriving DecidableEq, Repr

/-- A tag written as its name and its strength. -/
def Tag.write (tag : Tag) : Text := tag.name ++ ['='] ++ Numeral.write tag.strength.toNat

/-- Tags in ascending order of their names. -/
structure Registry where
  /-- The tag under each lowercase name. -/
  tags : Index Tag
  deriving DecidableEq, Repr

namespace Registry

/-- The registry without tags. -/
def empty : Registry := ⟨[]⟩

instance : Inhabited Registry := ⟨empty⟩

/-! ### Changes -/

/-- The registered tags in ascending order. -/
def listing (r : Registry) : List Tag := r.tags.map (·.2)

/-- Registers the tag of a name and changes its strength, which is zero if the
tag was not registered.  The empty name is no tag. -/
def touch (change : Change) (name : Text) (r : Registry) : Registry :=
  if name.isEmpty then r
  else ⟨r.tags.alter (lowercase name) fun tag? =>
    let tag := tag?.getD ⟨lowercase name, 0⟩
    { tag with strength := change.apply tag.strength }⟩

@[simp] theorem touch_nil (change : Change) (r : Registry) : touch change [] r = r := rfl

/-- Changes the tag of every name, in order. -/
def touchEach (change : Change) (names : List Text) (r : Registry) : Registry :=
  names.foldl (fun r name => r.touch change name) r

/-- Changes the tag of every word of a list, in order. -/
def touchWords (change : Change) (list : Text) (r : Registry) : Registry :=
  r.touchEach change (words list)

/-- Raises the tag of every entry to the strength given with it, in order. -/
def raiseEach (entries : List (Text × Strength)) (r : Registry) : Registry :=
  entries.foldl (fun r entry => r.touch (.raise entry.2) entry.1) r

/-- Raises every tag of the other registry to its strength there. -/
def merge (r other : Registry) : Registry :=
  r.raiseEach (other.listing.map fun tag => (tag.name, tag.strength))

/-- Clears every tag of the other registry that is not above its strength
there. -/
def withdraw (r other : Registry) : Registry :=
  other.listing.foldl (fun r tag => r.touch (.clear tag.strength) tag.name) r

/-- The registry of the given names and strengths; of names that differ only in
case the strongest counts. -/
def ofEntries (entries : List (Text × Strength)) : Registry := empty.raiseEach entries

/-- The registry of the words of a list, all at one strength. -/
def ofWords (list : Text) (strength : Strength) : Registry :=
  empty.touchWords (.raise strength) list

/-! ### Queries -/

/-- The registered tag of a name. -/
def find? (r : Registry) (name : Text) : Option Tag :=
  if name.isEmpty then none else r.tags.find? (lowercase name)

/-- The strength of a name, zero if it is not registered. -/
def strength (r : Registry) (name : Text) : Strength :=
  ((r.find? name).map (·.strength)).getD 0

/-- Registers the tag of a name; the tag, and the registry with it. -/
def register (name : Text) (r : Registry) : Option Tag × Registry :=
  let after := r.touch .keep name
  (after.find? name, after)

/-- Registers the tag of a name; its strength, and the registry with it. -/
def occurrencesOf (name : Text) (r : Registry) : Strength × Registry :=
  let (tag?, after) := r.register name
  ((tag?.map (·.strength)).getD 0, after)

/-- The tags of positive strength. -/
def applied (r : Registry) : List Tag := r.listing.filter fun tag => 0 < tag.strength

/-- The names of positive strength, ascending. -/
def names (r : Registry) : List Text := r.applied.map (·.name)

/-- The greatest strength, zero if there are no tags. -/
def highest (r : Registry) : Strength :=
  r.listing.foldl (fun top tag => if top < tag.strength then tag.strength else top) 0

/-- The groups with the name of one more tag at the end of its own, the first of
which is for strength one.  A tag for which there is no group cannot be put in. -/
def putInGroup? (groups : List (List Text)) (tag : Tag) : Option (List (List Text)) :=
  match tag.strength.toNat with
  | 0 => none
  | i + 1 => if i < groups.length then some (groups.modify i (· ++ [tag.name])) else none

/-- The names of each strength from one up to the greatest. -/
def groups? (r : Registry) : Option (List (List Text)) :=
  r.applied.foldlM putInGroup? (List.replicate r.highest.toNat [])

/-- The names of each strength from one up to the greatest, the names of one
strength joined by single spaces. -/
def levels (r : Registry) : List Text := (r.groups?.getD []).map [' '].intercalate

end Registry

/-! ### Edits -/

/-- One change to a registry. -/
inductive Edit where
  /-- Change the tag of one name. -/
  | one (change : Change) (name : Text)
  /-- Change the tag of every word of a list. -/
  | each (change : Change) (list : Text)
  deriving DecidableEq, Repr

namespace Edit

/-- The registry after an edit. -/
def apply : Edit → Registry → Registry
  | .one change name, r => r.touch change name
  | .each change list, r => r.touchWords change list

end Edit

end Questionnaire
