import Questionnaire.Proofs.SettingFields
import Questionnaire.Proofs.StrengthMap
import Questionnaire.Proofs.Words

/-!
# Runs over default tags

The three registries of default tags do not see each other either.  Each of them only
ever raises tags to one strength, and touches that make one change may change places, so
neither the order of the lists nor that of their words shows: the registry of a key is made
from all its values, joined by blanks in any order.

## Main results

* `Registry.foldl_touchWords` — lists in turn are one list of all their words.
* `DefaultTags.of_addAll` — the registry of a key sees the values of that key.
* `DefaultTags.of_addAll_empty` — **the registry of a key, from all its values.**
-/

namespace Questionnaire

open Text

/-! ### Lists in turn -/

namespace Registry

/-- Lists that are touched one after the other are one list of all their words. -/
theorem foldl_touchWords (change : Change) (lists : List Text) (r : Registry) :
    lists.foldl (fun r list => r.touchWords change list) r =
      r.touchEach change (lists.flatMap words) := by
  rw [touchEach, List.foldl_flatMap]
  rfl

end Registry

/-! ### The three registries -/

namespace DefaultTags

@[simp] theorem of_empty (list : TagList) : empty.of list = .empty := by
  cases list <;> rfl

/-- There is no more to default tags than their registries. -/
theorem ext_of {tags tags' : DefaultTags} (h : ∀ list, tags.of list = tags'.of list) :
    tags = tags' := by
  obtain ⟨_, _, _⟩ := tags
  obtain ⟨_, _, _⟩ := tags'
  rw [mk.injEq]
  exact ⟨h .nameless, h .sourceless, h .tagless⟩

/-- The registry of a key sees the values of that key and no others. -/
theorem of_addAll (entries : List (TagList × Text)) (tags : DefaultTags) (list : TagList) :
    (addAll entries tags).of list =
      (valuesUnder list entries).foldl (fun r names => r.touchWords (.raise strength) names)
        (tags.of list) := by
  induction entries generalizing tags with
  | nil => rfl
  | cons entry entries ih =>
    obtain ⟨key, names⟩ := entry
    have hstep : addAll ((key, names) :: entries) tags = addAll entries (tags.add key names) := rfl
    rw [hstep, ih]
    by_cases hkey : list = key
    · subst hkey
      rw [of_add_self, valuesUnder_cons_self, List.foldl_cons]
    · rw [of_add_of_ne hkey, valuesUnder_cons_of_ne hkey]

/-- **The registry of a key** is made from all its values, joined by blanks in any order. -/
theorem of_addAll_empty {entries : List (TagList × Text)} {list : TagList} {values : List Text}
    (hvalues : values.Perm (valuesUnder list entries)) {sep : Text} (hsep : sep ≠ [])
    (hblank : ∀ c ∈ sep, isBlank c = true) :
    (addAll entries empty).of list = .ofWords (sep.intercalate values) strength := by
  rw [of_addAll, of_empty, Registry.foldl_touchWords, Registry.ofWords, Registry.touchWords,
    words_intercalate hsep hblank]
  exact Registry.canonical_empty.touchEach_perm (.raise strength) (hvalues.flatMap_right words).symm

end DefaultTags

end Questionnaire
