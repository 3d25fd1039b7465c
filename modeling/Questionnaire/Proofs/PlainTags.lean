import Questionnaire.Proofs.LowercaseWords
import Questionnaire.Proofs.SharedRules

/-!
# Tags made of words

A template names tags by lists of words and gives every one of them strength one.  The
registries that are made in this way are plain: no tag of theirs is at strength zero, and
no name is empty, has a blank or an uppercase letter in it.  The same goes for the
triggers of rules that are made of words, and each of them is bound to a plain registry
that is not empty.

## Main definitions

* `Text.TagName`, `Tag.Plain`, `Registry.Plain`, `RuleTable.Plain` — plain names, tags,
  registries and tables.

## Main results

* `Registry.Plain.touchWords` — raising words to strength one keeps a registry plain.
* `RuleTable.Plain.addRule` — a further rule keeps a table plain.
-/

namespace Questionnaire

open Text

/-! ### Names -/

namespace Text

/-- The text is the lowercase form of a word. -/
structure TagName (t : Text) : Prop where
  /-- It is not empty. -/
  ne_nil : t ≠ []
  /-- No blank is in it. -/
  solid : Solid t
  /-- It is in lowercase. -/
  lowercase_eq : lowercase t = t

theorem solid_of_mem_words {t word : Text} (h : word ∈ words t) : Solid word := by
  have hsolid : ∀ t, Solid t → word ∈ words t → Solid word := by
    intro t ht h
    by_cases hne : t = []
    · rw [hne] at h
      exact absurd h List.not_mem_nil
    · rw [words_of_solid ht hne] at h
      exact List.mem_singleton.mp h ▸ ht
  induction t using blank_induction with
  | solid t ht => exact hsolid t ht h
  | parted t c u ht hc ih =>
    rw [words_append_blank hc] at h
    rcases List.mem_append.mp h with h | h
    · exact hsolid t ht h
    · exact ih h

theorem tagName_of_mem_words {t word : Text} (h : word ∈ words t) : TagName (lowercase word) :=
  ⟨mt lowercase_eq_nil_iff.mp (ne_nil_of_mem_words h), solid_lowercase (solid_of_mem_words h),
    lowercase_lowercase word⟩

end Text

/-! ### Registries -/

/-- The tag of a word, at strength one. -/
structure Tag.Plain (tag : Tag) : Prop where
  /-- The strength is one. -/
  strength_eq : tag.strength = 1
  /-- The name is made of a word. -/
  name : TagName tag.name

namespace Registry

/-- All tags of a registry are plain. -/
structure Plain (r : Registry) : Prop where
  /-- The registry is in shape. -/
  canonical : r.Canonical
  /-- Its tags are plain. -/
  plain : ∀ tag ∈ r.listing, tag.Plain

variable {r : Registry}

theorem plain_empty : Plain empty := ⟨canonical_empty, fun _ h => absurd h List.not_mem_nil⟩

/-- A tag that is raised to strength one was at strength one, or was not there. -/
theorem plain_touched {name : Text} (hname : TagName (lowercase name)) {tag? : Option Tag}
    (htag : ∀ tag ∈ tag?, tag.Plain) : (touched (.raise 1) name tag?).Plain := by
  cases tag? with
  | none => exact ⟨rfl, hname⟩
  | some tag =>
    obtain ⟨hstrength, htagName⟩ := htag tag rfl
    refine ⟨?_, htagName⟩
    rw [touched, Option.getD_some, hstrength]
    rfl

theorem Plain.touch (h : r.Plain) {name : Text} (hname : TagName (lowercase name)) :
    (r.touch (.raise 1) name).Plain := by
  have hne : name ≠ [] := fun hnil => hname.ne_nil (hnil ▸ lowercase_nil)
  refine ⟨h.canonical.touch _ _, fun tag htag => ?_⟩
  obtain ⟨entry, hentry, rfl⟩ := List.mem_map.mp htag
  rcases h.canonical.mem_touch hne hentry with rfl | hold
  · refine plain_touched hname fun tag hfound => ?_
    exact h.plain tag (List.mem_map_of_mem (Index.mem_of_find? hfound))
  · exact h.plain _ (List.mem_map_of_mem hold)

theorem Plain.touchEach (h : r.Plain) {names : List Text}
    (hnames : ∀ name ∈ names, TagName (lowercase name)) :
    (r.touchEach (.raise 1) names).Plain := by
  induction names generalizing r with
  | nil => exact h
  | cons name names ih =>
    rw [List.forall_mem_cons] at hnames
    exact ih (h.touch hnames.1) hnames.2

/-- **Raising words to strength one keeps a registry plain.** -/
theorem Plain.touchWords (h : r.Plain) (list : Text) : (r.touchWords (.raise 1) list).Plain :=
  h.touchEach fun _ hword => tagName_of_mem_words hword

/-- All tags of a plain registry apply. -/
theorem Plain.applied_eq (h : r.Plain) : r.applied = r.listing := by
  refine List.filter_eq_self.mpr fun tag htag => ?_
  rw [(h.plain tag htag).strength_eq]
  rfl

theorem Plain.tagName (h : r.Plain) {name : Text} (hname : name ∈ r.names) : TagName name := by
  rw [names, h.applied_eq] at hname
  obtain ⟨tag, htag, rfl⟩ := List.mem_map.mp hname
  exact (h.plain tag htag).name

theorem plain_ofWords (list : Text) : (ofWords list 1).Plain := plain_empty.touchWords list

end Registry

/-! ### Rule tables -/

namespace RuleTable

/-- All registries of a table are plain and have tags, and every trigger is made of a word
and bound to one of them. -/
structure Plain (t : RuleTable) : Prop where
  /-- The triggers are in order. -/
  ascending : t.triggers.Ascending
  /-- The registries are plain and have tags. -/
  rules : ∀ r ∈ t.rules, r.Plain ∧ r.listing ≠ []
  /-- The triggers are made of words, and bound. -/
  triggers : ∀ entry ∈ t.triggers, TagName entry.1 ∧ entry.2 < t.rules.length

variable {t : RuleTable}

theorem plain_empty : Plain empty :=
  ⟨Index.ascending_nil, fun _ h => absurd h List.not_mem_nil, fun _ h => absurd h List.not_mem_nil⟩

/-- After names are bound to a number, an entry has that number and one of the names, or it
is an old one. -/
theorem mem_bindEach {index : Index Nat} (hindex : index.Ascending) {number : Nat}
    {names : List Text} {entry : Text × Nat} (h : entry ∈ bindEach number names index) :
    ((∃ name ∈ names, entry.1 = lowercase name) ∧ entry.2 = number) ∨ entry ∈ index := by
  have hfind := (ascending_bindEach hindex number names).find?_eq_some_iff.mpr h
  rw [find?_bindEach hindex] at hfind
  split at hfind
  · next hany =>
    obtain ⟨name, hname, hkey⟩ := List.any_eq_true.mp hany
    exact Or.inl ⟨⟨name, hname, (beq_iff_eq.mp hkey).symm⟩, (Option.some.inj hfind).symm⟩
  · exact Or.inr (Index.mem_of_find? hfind)

/-- **A further rule keeps a table plain.** -/
theorem Plain.addRule (h : t.Plain) (triggers dependents : Text) :
    (t.addRule triggers dependents).Plain := by
  cases heffective : (RuleAction.addRule triggers dependents).effective with
  | false =>
    rw [RuleTable.addRule_of_not_effective heffective]
    exact h
  | true =>
    have hwords : words dependents ≠ [] := by
      simp only [RuleAction.effective, Bool.and_eq_true, Bool.not_eq_true',
        List.isEmpty_eq_false_iff] at heffective
      exact heffective.2
    rw [RuleTable.addRule_of_effective heffective]
    refine ⟨ascending_bindEach h.ascending _ _, ?_, ?_⟩
    · rw [List.forall_mem_append, List.forall_mem_singleton]
      refine ⟨h.rules, Registry.plain_ofWords dependents, fun hnil => hwords ?_⟩
      exact (Registry.tags_ofWords_eq_nil_iff dependents 1).mp (List.map_eq_nil_iff.mp hnil)
    · intro entry hentry
      rw [List.length_append]
      rcases mem_bindEach h.ascending hentry with ⟨⟨word, hword, hname⟩, hnumber⟩ | hold
      · exact ⟨hname ▸ tagName_of_mem_words hword, hnumber ▸ Nat.lt_succ_self _⟩
      · obtain ⟨hname, hnumber⟩ := h.triggers entry hold
        exact ⟨hname, hnumber.trans_le (Nat.le_add_right _ _)⟩

end RuleTable

end Questionnaire
