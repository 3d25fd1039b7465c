import Questionnaire.Proofs.JsonCounts
import Questionnaire.Proofs.Merging

/-!
# Stored tags are read back

A registry is stored as an object of its applied tags.  Reading the object gives the
fields that were written, in ascending order under different names; none of the names is
changed by being lowercased once more, so no two of them meet.  The registry that is read
is the one that was stored, but for the tags at strength zero, which are not stored.

## Main definitions

* `Registry.withoutZeros` — the registry without its tags at strength zero.
* `Registry.toMap` — the strengths of the applied tags under their names.

## Main results

* `Registry.ofJson?_toJson` — reading what was stored is building from the map.
* `Registry.stored_tags_read_back` — **storing and reading loses the zeros and nothing
  else.**
-/

namespace Questionnaire.Registry

variable {r : Registry}

/-! ### Without the zeros -/

/-- The registry without its tags at strength zero. -/
def withoutZeros (r : Registry) : Registry := ⟨r.tags.filter fun entry => 0 < entry.2.strength⟩

theorem listing_withoutZeros (r : Registry) : r.withoutZeros.listing = r.applied := by
  rw [applied, listing, listing, List.filter_map]
  rfl

/-- All tags of such a registry are applied. -/
theorem applied_withoutZeros (r : Registry) : r.withoutZeros.applied = r.applied := by
  rw [applied, listing_withoutZeros, applied, List.filter_filter]
  simp only [Bool.and_self]

theorem Canonical.withoutZeros (h : r.Canonical) : r.withoutZeros.Canonical := by
  have hmem : ∀ entry ∈ r.withoutZeros.tags, entry ∈ r.tags := fun entry hentry =>
    (List.mem_filter.mp hentry).1
  refine ⟨?_, fun entry hentry => h.name_eq entry (hmem entry hentry),
    fun entry hentry => h.ne_nil entry (hmem entry hentry),
    fun entry hentry => h.lowercase_eq entry (hmem entry hentry)⟩
  have hsublist : r.withoutZeros.tags.names.Sublist r.tags.names :=
    List.filter_sublist.map _
  exact h.ascending.sublist hsublist

/-- The map loses its zeros and nothing else. -/
theorem Canonical.strengths_withoutZeros (h : r.Canonical) (key : Text) (n : Nat) :
    r.withoutZeros.strengths key = some n ↔ r.strengths key = some n ∧ 0 < n := by
  rw [h.withoutZeros.strengths_eq_some_iff, h.strengths_eq_some_iff, listing_withoutZeros]
  simp only [applied, List.mem_filter, decide_eq_true_eq, UInt32.lt_iff_toNat_lt]
  constructor
  · rintro ⟨tag, ⟨hmem, hpos⟩, hname, rfl⟩
    exact ⟨⟨tag, hmem, hname, rfl⟩, hpos⟩
  · rintro ⟨⟨tag, hmem, hname, rfl⟩, hpos⟩
    exact ⟨tag, ⟨hmem, hpos⟩, hname, rfl⟩

/-! ### Storing and reading -/

/-- The strengths of the applied tags under their names. -/
def toMap (r : Registry) : Index Strength :=
  Index.ofEntries (r.applied.map fun tag => (tag.name, tag.strength))

/-- The applied tags of a canonical registry are in the order of the map already. -/
theorem Canonical.toMap_eq (h : r.Canonical) :
    r.toMap = r.applied.map fun tag => (tag.name, tag.strength) := by
  refine Index.Ascending.ofEntries_eq ?_
  have hnames : Index.names (r.applied.map fun tag => (tag.name, tag.strength)) =
      r.withoutZeros.registered := by
    rw [registered, listing_withoutZeros, Index.names, List.map_map]
    rfl
  rw [Index.Ascending, hnames, h.withoutZeros.registered_eq]
  exact h.withoutZeros.ascending

/-- Building from the map gives the registry without its zeros. -/
theorem Canonical.ofEntries_toMap (h : r.Canonical) : ofEntries r.toMap = r.withoutZeros := by
  have hown := h.withoutZeros.empty_merge
  rw [Registry.merge, listing_withoutZeros] at hown
  rw [h.toMap_eq]
  exact hown

/-- Reading what was stored is building from the map. -/
theorem ofJson?_toJson (r : Registry) : ofJson? r.toJson.compact = some (ofEntries r.toMap) := by
  have hobject : r.toJson = .object ((r.applied.map fun tag => (tag.name, tag.strength.toNat)).map
      fun field => (field.1, .natural field.2)) := by
    rw [toJson, List.map_map]
    rfl
  have hbound : ∀ field ∈ r.applied.map fun tag => (tag.name, tag.strength.toNat),
      field.2 ≤ Counts.greatest := by
    refine List.forall_mem_map.mpr fun tag _ => ?_
    exact Nat.le_of_lt_succ tag.strength.toNat_lt
  rw [ofJson?, hobject, Counts.read?_compact hbound, Option.map_some, List.map_map, toMap]
  simp only [Function.comp_def, UInt32.ofNat_toNat]

/-! ### The theorem -/

/-- **Storing and reading loses the zeros and nothing else.**  A registry that can be reached
is read back from its JSON text without its tags at strength zero, and so it is built from
its map of strengths.  What remains has the same names and strengths, and is stored as the
same text. -/
theorem stored_tags_read_back (h : r.Reachable) :
    ofJson? r.toJson.compact = some r.withoutZeros ∧
    ofEntries r.toMap = r.withoutZeros ∧
    r.withoutZeros.listing = r.listing.filter (fun tag => 0 < tag.strength) ∧
    (∀ key n, r.withoutZeros.strengths key = some n ↔ r.strengths key = some n ∧ 0 < n) ∧
    r.withoutZeros.toJson.compact = r.toJson.compact ∧ r.withoutZeros.toMap = r.toMap := by
  have hr := h.canonical
  refine ⟨?_, hr.ofEntries_toMap, listing_withoutZeros r, hr.strengths_withoutZeros, ?_, ?_⟩
  · rw [ofJson?_toJson, hr.ofEntries_toMap]
  · rw [toJson, toJson, applied_withoutZeros]
  · rw [toMap, toMap, applied_withoutZeros]

/-- Names with a quote, a control character, a space and a character beyond the first 65536,
the greatest strength, and a tag at zero. -/
theorem stored_tags_read_back_escaped :
    let given : List (Text × Strength) :=
      [("A\"\\".toList, 1), (['\x01', '\n', ' '], 0xffffffff), (['𝄞'], 2), (['b'], 0)]
    (ofEntries given).Reachable ∧
      (ofEntries given).toJson.compact =
        "\x7b\"\\u0001\\n \":4294967295,\"a\\\"\\\\\":1,\"𝄞\":2\x7d".toList ∧
      ofJson? (ofEntries given).toJson.compact = some (ofEntries (given.take 3)) := by
  intro given
  have hreachable : (ofEntries given).Reachable := .build (.entries given) rfl
  refine ⟨hreachable, by decide +kernel, ?_⟩
  rw [(stored_tags_read_back hreachable).1]
  decide +kernel

end Questionnaire.Registry
