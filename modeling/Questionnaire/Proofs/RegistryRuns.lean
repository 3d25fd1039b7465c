import Questionnaire.Json.Tags
import Questionnaire.Proofs.Index
import Questionnaire.Proofs.Lowercase

/-!
# Runs over registries

A registry is built once and then changed any number of times.  Whatever is done
to it comes down to touching one name after the other, and a touch keeps the
registry canonical: names ascend, each is the lowercase form of itself, and
every tag stands under its own name.

## Main definitions

* `Registry.registered` — the names of all tags.
* `Registry.Canonical` — the shape of a registry.
* `Registry.Construction`, `Registry.Mutation` — how registries are built and changed,
  with the names that are given for it.
* `Registry.Reachable` — what can be built and changed in this way.
* `Registry.touchAll` — the registry after a sequence of touches.

## Main results

* `Registry.Canonical.touch`, `Registry.Canonical.touchAll` — touches keep the shape.
* `Registry.Mutation.apply_eq_touchAll` — a mutation is a sequence of touches.
* `Registry.Canonical.apply` — so a mutation keeps the shape too.
* `Registry.Reachable.canonical` — **what can be reached is canonical.**
-/

namespace Questionnaire

open Text

namespace Registry

/-- The names of all registered tags in the order of the listing. -/
def registered (r : Registry) : List Text := r.listing.map (·.name)

/-! ### Shape -/

/-- The shape of a registry. -/
structure Canonical (r : Registry) : Prop where
  /-- The names ascend, each listed once. -/
  ascending : r.tags.Ascending
  /-- A tag stands under its own name. -/
  name_eq : ∀ entry ∈ r.tags, entry.2.name = entry.1
  /-- The empty name is no tag. -/
  ne_nil : ∀ entry ∈ r.tags, entry.1 ≠ []
  /-- Lowercasing leaves names as they are. -/
  lowercase_eq : ∀ entry ∈ r.tags, lowercase entry.1 = entry.1

theorem canonical_empty : Canonical empty :=
  ⟨Index.ascending_nil, fun _ h => absurd h List.not_mem_nil, fun _ h => absurd h List.not_mem_nil,
    fun _ h => absurd h List.not_mem_nil⟩

/-- The names of the tags are the names that they are found under. -/
theorem Canonical.registered_eq {r : Registry} (h : r.Canonical) : r.registered = r.tags.names := by
  rw [registered, listing, List.map_map]
  exact List.map_congr_left h.name_eq

/-! ### One touch -/

/-- The tag that a touch leaves under a name, given the one that was there. -/
def touched (change : Change) (name : Text) (tag? : Option Tag) : Tag :=
  { tag?.getD ⟨lowercase name, 0⟩ with
    strength := change.apply (tag?.getD ⟨lowercase name, 0⟩).strength }

theorem touch_of_ne_nil {name : Text} (hname : name ≠ []) (change : Change) (r : Registry) :
    r.touch change name = ⟨r.tags.alter (lowercase name) (touched change name)⟩ := by
  rw [touch, if_neg (by simpa using hname)]
  rfl

/-- A touch registers its name and takes no name away. -/
theorem mem_names_touch (change : Change) (name : Text) (r : Registry) (key : Text) :
    key ∈ (r.touch change name).tags.names ↔
      key ∈ r.tags.names ∨ name ≠ [] ∧ key = lowercase name := by
  by_cases hname : name = []
  · simp [hname]
  · rw [touch_of_ne_nil hname, Index.mem_names_alter, or_comm]
    simp [hname]

theorem Canonical.find?_touch {r : Registry} (h : r.Canonical) (change : Change) {name : Text}
    (hname : name ≠ []) (key : Text) : (r.touch change name).tags.find? key =
      if key = lowercase name then some (touched change name (r.tags.find? (lowercase name)))
      else r.tags.find? key := by
  rw [touch_of_ne_nil hname]
  exact h.ascending.find?_alter _ _ _

theorem Canonical.ascending_touch {r : Registry} (h : r.Canonical) (change : Change)
    (name : Text) : (r.touch change name).tags.Ascending := by
  by_cases hname : name = []
  · rw [hname, touch_nil]
    exact h.ascending
  · rw [touch_of_ne_nil hname]
    exact h.ascending.alter _ _

/-- After a touch an entry is the touched one or an old one. -/
theorem Canonical.mem_touch {r : Registry} (h : r.Canonical) {change : Change} {name : Text}
    (hname : name ≠ []) {entry : Text × Tag} (hmem : entry ∈ (r.touch change name).tags) :
    entry = (lowercase name, touched change name (r.tags.find? (lowercase name))) ∨
      entry ∈ r.tags := by
  have hfind := (h.ascending_touch change name).find?_eq_some_iff.mpr hmem
  rw [h.find?_touch change hname] at hfind
  by_cases hkey : entry.1 = lowercase name
  · rw [if_pos hkey] at hfind
    exact Or.inl (Prod.ext hkey (Option.some.inj hfind).symm)
  · rw [if_neg hkey] at hfind
    exact Or.inr (Index.mem_of_find? hfind)

theorem Canonical.touch {r : Registry} (h : r.Canonical) (change : Change) (name : Text) :
    (r.touch change name).Canonical := by
  by_cases hname : name = []
  · rw [hname, touch_nil]
    exact h
  refine ⟨h.ascending_touch change name, ?_, ?_, ?_⟩
  · intro entry hmem
    rcases h.mem_touch hname hmem with rfl | hold
    · cases hfind : r.tags.find? (lowercase name) with
      | none => rfl
      | some tag =>
        have hold : tag.name = lowercase name := h.name_eq _ (Index.mem_of_find? hfind)
        exact hold
    · exact h.name_eq entry hold
  · intro entry hmem
    rcases h.mem_touch hname hmem with rfl | hold
    · exact fun hnil => hname (lowercase_eq_nil_iff.mp hnil)
    · exact h.ne_nil entry hold
  · intro entry hmem
    rcases h.mem_touch hname hmem with rfl | hold
    · exact lowercase_lowercase name
    · exact h.lowercase_eq entry hold

/-! ### Many touches -/

/-- The registry after touches, each a change and a name. -/
def touchAll (touches : List (Change × Text)) (r : Registry) : Registry :=
  touches.foldl (fun r touch => r.touch touch.1 touch.2) r

@[simp] theorem touchAll_nil (r : Registry) : touchAll [] r = r := rfl

@[simp] theorem touchAll_cons (touch : Change × Text) (touches : List (Change × Text))
    (r : Registry) : touchAll (touch :: touches) r = touchAll touches (r.touch touch.1 touch.2) :=
  rfl

theorem Canonical.touchAll {r : Registry} (h : r.Canonical) (touches : List (Change × Text)) :
    (r.touchAll touches).Canonical := by
  induction touches generalizing r with
  | nil => exact h
  | cons touch touches ih => exact ih (h.touch touch.1 touch.2)

theorem mem_names_touchAll (touches : List (Change × Text)) (r : Registry) (key : Text) :
    key ∈ (r.touchAll touches).tags.names ↔ key ∈ r.tags.names ∨
      ∃ name ∈ touches.map (·.2), name ≠ [] ∧ key = lowercase name := by
  induction touches generalizing r with
  | nil => simp
  | cons touch touches ih =>
    rw [touchAll_cons, ih, mem_names_touch, or_assoc, List.map_cons]
    simp only [List.exists_mem_cons_iff]

/-- Touching the empty name changes nothing. -/
theorem touchAll_of_eq_nil {touches : List (Change × Text)} {r : Registry}
    (h : ∀ name ∈ touches.map (·.2), name = []) : r.touchAll touches = r := by
  induction touches with
  | nil => rfl
  | cons touch touches ih =>
    rw [List.map_cons, List.forall_mem_cons] at h
    rw [touchAll_cons, h.1, touch_nil, ih h.2]

/-! ### Ways to build a registry -/

/-- A way to build a registry. -/
inductive Construction where
  /-- Without tags. -/
  | empty
  /-- From names with strengths. -/
  | entries (given : List (Text × Strength))
  /-- From the words of a list, all at one strength. -/
  | words (list : Text) (strength : Strength)
  /-- From a text that holds an object of counts. -/
  | json (text : Text)

namespace Construction

/-- The registry that is built, if the text can be read. -/
def build? : Construction → Option Registry
  | .empty => some .empty
  | .entries given => some (.ofEntries given)
  | .words list strength => some (.ofWords list strength)
  | .json text => Registry.ofJson? text

/-- The entries that the registry is built from. -/
def raised : Construction → List (Text × Strength)
  | .empty => []
  | .entries given => given
  | .words list strength => (Text.words list).map (·, strength)
  | .json text =>
    Index.ofEntries (((Counts.read? text).getD []).map fun field => (field.1, .ofNat field.2))

/-- Building a registry is touching the names of its entries. -/
theorem eq_touchAll_of_build? {c : Construction} {r : Registry} (h : c.build? = some r) :
    r = touchAll (c.raised.map fun entry => (.raise entry.2, entry.1)) .empty := by
  rw [touchAll, List.foldl_map]
  cases c with
  | empty => exact (Option.some.inj h).symm
  | entries given => exact (Option.some.inj h).symm
  | words list strength =>
    rw [← Option.some.inj h, raised, List.foldl_map]
    rfl
  | json text =>
    obtain ⟨fields, hread, rfl⟩ := Option.map_eq_some_iff.mp h
    rw [raised, hread]
    rfl

end Construction

/-! ### Ways to change a registry -/

/-- A way to change a registry. -/
inductive Mutation where
  /-- Registering a name, to see its tag. -/
  | register (name : Text)
  /-- Registering a name, to see its strength. -/
  | occurrencesOf (name : Text)
  /-- Changing the tag of a name. -/
  | touch (change : Change) (name : Text)
  /-- Changing the tag of every word of a list. -/
  | touchWords (change : Change) (list : Text)
  /-- Raising every tag of another registry. -/
  | merge (other : Registry)
  /-- Clearing every tag of another registry. -/
  | withdraw (other : Registry)

namespace Mutation

/-- The registry after a mutation. -/
def apply : Mutation → Registry → Registry
  | register name, r => (r.register name).2
  | occurrencesOf name, r => (r.occurrencesOf name).2
  | touch change name, r => r.touch change name
  | touchWords change list, r => r.touchWords change list
  | merge other, r => r.merge other
  | withdraw other, r => r.withdraw other

/-- The names that are given for a mutation. -/
def given : Mutation → List Text
  | register name => [name]
  | occurrencesOf name => [name]
  | touch _ name => [name]
  | touchWords _ list => words list
  | merge other => other.registered
  | withdraw other => other.registered

/-- The other registry of a mutation. -/
def other? : Mutation → Option Registry
  | merge other => some other
  | withdraw other => some other
  | _ => none

/-- The touches that make up a mutation. -/
def touches : Mutation → List (Change × Text)
  | register name => [(.keep, name)]
  | occurrencesOf name => [(.keep, name)]
  | touch change name => [(change, name)]
  | touchWords change list => (words list).map (change, ·)
  | merge other => other.listing.map fun tag => (.raise tag.strength, tag.name)
  | withdraw other => other.listing.map fun tag => (.clear tag.strength, tag.name)

/-- A mutation is a sequence of touches. -/
theorem apply_eq_touchAll (m : Mutation) (r : Registry) : m.apply r = r.touchAll m.touches := by
  cases m with
  | register name => rfl
  | occurrencesOf name => rfl
  | touch change name => rfl
  | touchWords change list =>
    rw [touchAll, touches, List.foldl_map]
    rfl
  | merge other =>
    rw [touchAll, touches, List.foldl_map, apply, Registry.merge, raiseEach, List.foldl_map]
  | withdraw other =>
    rw [touchAll, touches, List.foldl_map]
    rfl

theorem map_snd_touches (m : Mutation) : m.touches.map (·.2) = m.given := by
  cases m <;> simp [touches, given, registered, Function.comp_def]

end Mutation

theorem Canonical.apply {r : Registry} (h : r.Canonical) (m : Mutation) :
    (m.apply r).Canonical := by
  rw [m.apply_eq_touchAll]
  exact h.touchAll _

/-- What can be built, and changed by what can be reached in turn. -/
inductive Reachable : Registry → Prop
  /-- A registry as it is built. -/
  | build {r : Registry} (c : Construction) (h : c.build? = some r) : Reachable r
  /-- A registry after a mutation. -/
  | mutate {r : Registry} (m : Mutation) (h : Reachable r)
      (hother : ∀ other ∈ m.other?, Reachable other) : Reachable (m.apply r)

/-- **What can be reached is canonical.** -/
theorem Reachable.canonical {r : Registry} (h : r.Reachable) : r.Canonical := by
  induction h with
  | build c h =>
    rw [c.eq_touchAll_of_build? h]
    exact canonical_empty.touchAll _
  | mutate m _ _ ih _ => exact ih.apply m

theorem Reachable.touch {r : Registry} (h : r.Reachable) (change : Change) (name : Text) :
    (r.touch change name).Reachable :=
  .mutate (.touch change name) h fun _ hother => nomatch hother

end Registry

end Questionnaire
