import Questionnaire.Proofs.StoredTags
import Questionnaire.Proofs.Words

/-!
# Names by strength

The applied names of a registry are grouped by their exact strength.  One name after the
other is put at the end of the group of its strength, and a group is there for every
strength up to the greatest, so no name is ever without one.  What is put in before stays
in order before what is put in later; hence a group lists the names of its strength as they
are listed in the registry, and all groups together list the applied names once each.

## Main definitions

* `Registry.namesOf tags n` — the names of exactly one strength.

## Main results

* `Registry.putInGroup?_map_namesOf` — one name is put in.
* `Registry.foldlM_putInGroup?` — so are all of them.
* `Registry.highest_spec` — the greatest strength.
* `Registry.flatMap_filter_perm` — what is grouped is neither lost nor doubled.
* `Registry.levels_group_names` — **the levels group the applied names.**
-/

namespace Questionnaire.Registry

open Text

variable {r : Registry} {tags : List Tag} {n : Nat}

/-! ### Filling the groups -/

/-- The names of the tags of one strength, in order. -/
def namesOf (tags : List Tag) (n : Nat) : List Text :=
  (tags.filter (·.strength.toNat == n)).map (·.name)

theorem mem_namesOf {name : Text} :
    name ∈ namesOf tags n ↔ ∃ tag ∈ tags, tag.name = name ∧ tag.strength.toNat = n := by
  simp only [namesOf, List.mem_map, List.mem_filter, beq_iff_eq]
  exact ⟨fun ⟨tag, ⟨htag, hn⟩, hname⟩ => ⟨tag, htag, hname, hn⟩,
    fun ⟨tag, htag, hname, hn⟩ => ⟨tag, ⟨htag, hn⟩, hname⟩⟩

theorem namesOf_concat (tags : List Tag) (tag : Tag) (n : Nat) :
    namesOf (tags ++ [tag]) n =
      if tag.strength.toNat = n then namesOf tags n ++ [tag.name] else namesOf tags n := by
  rw [namesOf, List.filter_append, List.map_append]
  by_cases h : tag.strength.toNat = n <;> simp [namesOf, h]

/-- A tag that has a group is put at the end of it. -/
theorem putInGroup?_map_namesOf {top : Nat} (tags : List Tag) {tag : Tag}
    (hpos : 0 < tag.strength.toNat) (hle : tag.strength.toNat ≤ top) :
    putInGroup? ((List.range top).map fun i => namesOf tags (i + 1)) tag =
      some ((List.range top).map fun i => namesOf (tags ++ [tag]) (i + 1)) := by
  obtain ⟨i, hi⟩ := Nat.exists_eq_add_one_of_ne_zero hpos.ne'
  have hlt : i < top := by omega
  rw [putInGroup?, hi, List.length_map, List.length_range]
  simp only [if_pos hlt, Option.some.injEq]
  -- the group of the tag gets its name, and no other group has tags of that strength
  refine List.ext_getElem (by simp) fun j hj hj' => ?_
  rw [List.getElem_modify, List.getElem_map, List.getElem_map, List.getElem_range, namesOf_concat,
    hi]
  simp only [Nat.add_right_cancel_iff]

/-- All tags that have a group are put in, each behind the ones before it. -/
theorem foldlM_putInGroup? {top : Nat}
    (h : ∀ tag ∈ tags, 0 < tag.strength.toNat ∧ tag.strength.toNat ≤ top) :
    tags.foldlM putInGroup? (List.replicate top []) =
      some ((List.range top).map fun i => namesOf tags (i + 1)) := by
  induction tags using List.reverseRecOn with
  | nil =>
    have hnil : (fun i => namesOf [] (i + 1)) = fun _ => ([] : List Text) := rfl
    rw [List.foldlM_nil, hnil, List.map_const', List.length_range]
    rfl
  | append_singleton tags tag ih =>
    have hbefore := ih fun tag htag => h tag (List.mem_append_left _ htag)
    obtain ⟨hpos, hle⟩ := h tag (by simp)
    rw [List.foldlM_append, hbefore, Option.bind_eq_bind, Option.bind_some,
      List.foldlM_cons, putInGroup?_map_namesOf tags hpos hle]
    rfl

/-! ### The greatest strength -/

/-- No strength is above the greatest one, which is the strength of a tag unless it is
zero. -/
theorem highest_spec (r : Registry) :
    (∀ tag ∈ r.listing, tag.strength ≤ r.highest) ∧
      (r.highest = 0 ∨ ∃ tag ∈ r.listing, tag.strength = r.highest) := by
  rw [highest]
  induction r.listing using List.reverseRecOn with
  | nil => exact ⟨fun tag h => absurd h List.not_mem_nil, Or.inl rfl⟩
  | append_singleton tags last ih =>
    obtain ⟨habove, hattained⟩ := ih
    rw [List.foldl_concat]
    by_cases hlt : tags.foldl (fun top tag => if top < tag.strength then tag.strength else top) 0 <
        last.strength
    · rw [if_pos hlt]
      refine ⟨?_, Or.inr ⟨last, by simp, rfl⟩⟩
      rw [List.forall_mem_append, List.forall_mem_singleton]
      exact ⟨fun tag htag => UInt32.le_trans (habove tag htag) (UInt32.le_of_lt hlt),
        UInt32.le_refl _⟩
    · rw [if_neg hlt]
      refine ⟨?_, hattained.imp_right fun ⟨tag, htag, heq⟩ =>
        ⟨tag, List.mem_append_left _ htag, heq⟩⟩
      rw [List.forall_mem_append, List.forall_mem_singleton]
      exact ⟨habove, UInt32.not_lt.mp hlt⟩

/-- Every applied tag has a group. -/
theorem strength_of_mem_applied {tag : Tag} (h : tag ∈ r.applied) :
    0 < tag.strength.toNat ∧ tag.strength.toNat ≤ r.highest.toNat := by
  obtain ⟨hmem, hpos⟩ := List.mem_filter.mp h
  exact ⟨UInt32.lt_iff_toNat_lt.mp (of_decide_eq_true hpos),
    UInt32.le_iff_toNat_le.mp ((highest_spec r).1 tag hmem)⟩

theorem mem_applied_iff {tag : Tag} :
    tag ∈ r.applied ↔ tag ∈ r.listing ∧ 0 < tag.strength.toNat := by
  rw [applied, List.mem_filter, decide_eq_true_eq, UInt32.lt_iff_toNat_lt]
  rfl

/-- **The groups are filled.** -/
theorem groups?_eq (r : Registry) :
    r.groups? = some ((List.range r.highest.toNat).map fun i => namesOf r.applied (i + 1)) :=
  foldlM_putInGroup? fun _ => strength_of_mem_applied

theorem getElem?_groups {top i : Nat} {names : List Text} :
    ((List.range top).map fun i => namesOf tags (i + 1))[i]? = some names ↔
      i < top ∧ names = namesOf tags (i + 1) := by
  rw [List.getElem?_map, Option.map_eq_some_iff]
  constructor
  · rintro ⟨j, hj, rfl⟩
    obtain ⟨hlt, rfl⟩ := List.getElem?_eq_some_iff.mp hj
    rw [List.getElem_range]
    exact ⟨by simpa using hlt, rfl⟩
  · rintro ⟨hlt, rfl⟩
    exact ⟨i, List.getElem?_range hlt, rfl⟩

/-! ### Nothing is lost or doubled -/

/-- What is grouped by a key is neither lost nor doubled. -/
theorem flatMap_filter_perm {α : Type} (key : α → Nat) (xs : List α) (n : Nat) :
    ((List.range n).flatMap fun i => xs.filter (key · == i + 1)).Perm
      (xs.filter fun x => 0 < key x && key x ≤ n) := by
  induction n with
  | zero =>
    have hnone : xs.filter (fun x => 0 < key x && key x ≤ 0) = [] :=
      List.filter_eq_nil_iff.mpr fun x _ => by simp; omega
    rw [hnone]
    exact .nil
  | succ n ih =>
    have hcut := List.filter_append_perm (key · ≤ n)
      (xs.filter fun x => 0 < key x && key x ≤ n + 1)
    rw [List.filter_filter, List.filter_filter] at hcut
    rw [List.range_succ, List.flatMap_append, List.flatMap_singleton]
    refine ((ih.append_right _).trans (.of_eq ?_)).trans hcut
    congr 1 <;> refine List.filter_congr fun x _ => ?_
    · rw [Bool.eq_iff_iff]
      simp only [Bool.and_eq_true, decide_eq_true_eq]
      omega
    · rw [Bool.eq_iff_iff]
      simp only [Bool.and_eq_true, decide_eq_true_eq, beq_iff_eq, Bool.not_eq_true',
        decide_eq_false_iff_not]
      omega

/-- The applied tags by strength are the applied tags. -/
theorem flatMap_applied_perm (r : Registry) :
    ((List.range r.highest.toNat).flatMap fun i =>
      r.applied.filter (·.strength.toNat == i + 1)).Perm r.applied := by
  refine (flatMap_filter_perm (fun tag : Tag => tag.strength.toNat) r.applied _).trans (.of_eq ?_)
  refine List.filter_eq_self.mpr fun tag htag => ?_
  simpa using strength_of_mem_applied htag

/-! ### Groups as texts -/

theorem levels_eq (r : Registry) :
    r.levels = (List.range r.highest.toNat).map fun i =>
      [' '].intercalate (namesOf r.applied (i + 1)) := by
  rw [levels, groups?_eq, Option.getD_some, List.map_map]
  rfl

/-- Joined names are empty only if there is at most one, and that is empty. -/
theorem intercalate_ne_nil {names : List Text} {name : Text} (hmem : name ∈ names)
    (hne : name ≠ []) : [' '].intercalate names ≠ [] := by
  match names, hmem with
  | [single], hmem =>
    rw [List.intercalate_singleton, ← List.mem_singleton.mp hmem]
    exact hne
  | first :: second :: more, _ => simp

/-- Names that are no more than one word each are read back from the joined text. -/
theorem words_intercalate_of_solid {names : List Text}
    (h : ∀ name ∈ names, Solid name ∧ name ≠ []) : words ([' '].intercalate names) = names := by
  rw [words_intercalate (by simp) (List.forall_mem_singleton.mpr rfl)]
  induction names with
  | nil => rfl
  | cons name names ih =>
    rw [List.forall_mem_cons] at h
    rw [List.flatMap_cons, words_of_solid h.1.1 h.1.2, ih h.2]
    rfl

theorem Canonical.name_ne_nil (h : r.Canonical) {tag : Tag} (htag : tag ∈ r.listing) :
    tag.name ≠ [] := by
  obtain ⟨entry, hentry, rfl⟩ := List.mem_map.mp htag
  rw [h.name_eq entry hentry]
  exact h.ne_nil entry hentry

/-- The applied names ascend like the registry. -/
theorem Canonical.pairwise_names (h : r.Canonical) : r.names.Pairwise (· < ·) := by
  have hascending : r.registered.Pairwise (· < ·) := h.registered_eq ▸ h.ascending
  exact hascending.sublist (List.filter_sublist.map _)

/-- So do those of a group. -/
theorem Canonical.pairwise_namesOf (h : r.Canonical) (n : Nat) :
    (namesOf r.applied n).Pairwise (· < ·) :=
  h.pairwise_names.sublist (List.filter_sublist.map _)

/-- A name is registered with one strength. -/
theorem Canonical.strength_unique (h : r.Canonical) {tag tag' : Tag} (htag : tag ∈ r.listing)
    (htag' : tag' ∈ r.listing) (hname : tag.name = tag'.name) :
    tag.strength.toNat = tag'.strength.toNat := by
  have hfound := (h.strengths_eq_some_iff _ _).mpr ⟨tag, htag, hname, rfl⟩
  have hfound' := (h.strengths_eq_some_iff _ _).mpr ⟨tag', htag', rfl, rfl⟩
  exact Option.some.inj (hfound.symm.trans hfound')

theorem mem_namesOf_applied {name : Text} (hn : 0 < n) : name ∈ namesOf r.applied n ↔
    ∃ tag ∈ r.listing, tag.name = name ∧ tag.strength.toNat = n := by
  rw [mem_namesOf]
  constructor
  · rintro ⟨tag, htag, h⟩
    exact ⟨tag, (mem_applied_iff.mp htag).1, h⟩
  · rintro ⟨tag, htag, hname, rfl⟩
    exact ⟨tag, mem_applied_iff.mpr ⟨htag, hn⟩, hname, rfl⟩

/-- An applied name is in the group of its strength and in no other. -/
theorem Canonical.existsUnique_group (h : r.Canonical) {name : Text} (hname : name ∈ r.names) :
    ∃! i : Nat, ∃ names,
      ((List.range r.highest.toNat).map fun i => namesOf r.applied (i + 1))[i]? = some names ∧
        name ∈ names := by
  obtain ⟨tag, htag, rfl⟩ := List.mem_map.mp hname
  obtain ⟨hpos, hle⟩ := strength_of_mem_applied htag
  obtain ⟨i, hi⟩ := Nat.exists_eq_add_one_of_ne_zero hpos.ne'
  refine ⟨i, ⟨_, getElem?_groups.mpr ⟨by omega, rfl⟩, mem_namesOf.mpr ⟨tag, htag, rfl, hi⟩⟩, ?_⟩
  rintro j ⟨names, hj, hmem⟩
  obtain ⟨-, rfl⟩ := getElem?_groups.mp hj
  obtain ⟨tag', htag', hname', hstrength⟩ := mem_namesOf.mp hmem
  have hsame := h.strength_unique (mem_applied_iff.mp htag').1 (mem_applied_iff.mp htag).1 hname'
  omega

/-- A name that does not apply is in no group. -/
theorem Canonical.not_mem_namesOf (h : r.Canonical) {tag : Tag} (htag : tag ∈ r.listing)
    (hzero : tag.strength = 0) (i : Nat) : tag.name ∉ namesOf r.applied (i + 1) := by
  intro hmem
  obtain ⟨tag', htag', hname, hstrength⟩ := mem_namesOf.mp hmem
  have hsame := h.strength_unique (mem_applied_iff.mp htag').1 htag hname
  rw [hzero, hstrength] at hsame
  cases hsame

/-- The last level has the tags of the greatest strength. -/
theorem Canonical.getLast?_levels_ne_nil (h : r.Canonical) :
    ∀ last ∈ r.levels.getLast?, last ≠ [] := by
  intro last hlast
  rw [levels_eq] at hlast
  cases htop : r.highest.toNat with
  | zero =>
    rw [htop] at hlast
    cases hlast
  | succ top =>
    rw [htop, List.range_succ, List.map_append, List.map_singleton] at hlast
    obtain rfl := Option.some.inj ((List.getLast?_concat ..).symm.trans hlast)
    rcases (highest_spec r).2 with hzero | ⟨tag, htag, hstrength⟩
    · rw [hzero] at htop
      cases htop
    · have hmem : tag.name ∈ namesOf r.applied (top + 1) :=
        (mem_namesOf_applied (Nat.succ_pos top)).mpr ⟨tag, htag, rfl, hstrength ▸ htop⟩
      exact intercalate_ne_nil hmem (h.name_ne_nil htag)

/-- Where no name has a blank, the words of the levels are the names of the groups. -/
theorem Canonical.words_level (h : r.Canonical) (hsolid : ∀ name ∈ r.registered, Solid name)
    (n : Nat) : words ([' '].intercalate (namesOf r.applied n)) = namesOf r.applied n := by
  refine words_intercalate_of_solid fun name hname => ?_
  obtain ⟨tag, htag, rfl, -⟩ := mem_namesOf.mp hname
  have hlisted : tag ∈ r.listing := (mem_applied_iff.mp htag).1
  exact ⟨hsolid _ (List.mem_map_of_mem hlisted), h.name_ne_nil hlisted⟩

/-- All words of the levels are the applied names. -/
theorem Canonical.flatMap_words_levels_perm (h : r.Canonical)
    (hsolid : ∀ name ∈ r.registered, Solid name) : (r.levels.flatMap words).Perm r.names := by
  have hwords : r.levels.flatMap words = ((List.range r.highest.toNat).flatMap fun i =>
      r.applied.filter (·.strength.toNat == i + 1)).map (·.name) := by
    rw [levels_eq, List.flatMap_map, List.map_flatMap]
    exact List.flatMap_congr fun i _ => h.words_level hsolid (i + 1)
  rw [hwords]
  exact (flatMap_applied_perm r).map _

/-- With the strength of its level each word makes up an entry of the map. -/
theorem Canonical.mapIdx_levels_perm (h : r.Canonical)
    (hsolid : ∀ name ∈ r.registered, Solid name) :
    ((r.levels.mapIdx fun i level =>
      (words level).map fun name => (name, UInt32.ofNat (i + 1))).flatten).Perm r.toMap := by
  have hlevel : ∀ i, ((namesOf r.applied (i + 1)).map fun name => (name, UInt32.ofNat (i + 1))) =
      (r.applied.filter (·.strength.toNat == i + 1)).map fun tag => (tag.name, tag.strength) := by
    intro i
    rw [namesOf, List.map_map]
    refine List.map_congr_left fun tag htag => ?_
    have hstrength : tag.strength.toNat = i + 1 := by simpa using (List.mem_filter.mp htag).2
    rw [← hstrength, Function.comp_apply, UInt32.ofNat_toNat]
  have hentries : (r.levels.mapIdx fun i level =>
      (words level).map fun name => (name, UInt32.ofNat (i + 1))) =
      (List.range r.highest.toNat).map fun i =>
        (r.applied.filter (·.strength.toNat == i + 1)).map fun tag => (tag.name, tag.strength) := by
    refine List.ext_getElem (by simp [levels_eq]) fun i hi hi' => ?_
    simp only [levels_eq, List.getElem_mapIdx, List.getElem_map, List.getElem_range,
      h.words_level hsolid, hlevel]
  rw [hentries, h.toMap_eq, ← List.flatMap_def, ← List.map_flatMap]
  exact (flatMap_applied_perm r).map _

/-! ### The theorem -/

/-- **The levels group the applied names.**  Every applied tag finds its group, so grouping
succeeds; there are as many groups as the greatest strength tells, and a group has in
ascending order the names of exactly its strength.  Each level is a group joined by single
spaces, and the last level is not empty.  Where no name has a blank, the words of a level
are its group; together they are the applied names, and with the strengths of their levels
the map of strengths. -/
theorem levels_group_names (h : r.Reachable) :
    ∃ groups : List (List Text), r.groups? = some groups ∧
      r.levels = groups.map [' '].intercalate ∧ r.levels.length = r.highest.toNat ∧
      (∀ last ∈ r.levels.getLast?, last ≠ []) ∧
      (∀ i names, groups[i]? = some names → names.Pairwise (· < ·) ∧
        ∀ name, name ∈ names ↔
          ∃ tag ∈ r.listing, tag.name = name ∧ tag.strength.toNat = i + 1) ∧
      (∀ name ∈ r.names, ∃! i : Nat, ∃ names, groups[i]? = some names ∧ name ∈ names) ∧
      (∀ tag ∈ r.listing, tag.strength = 0 → ∀ names ∈ groups, tag.name ∉ names) ∧
      ((∀ name ∈ r.registered, Solid name) → r.levels.map words = groups ∧
        (r.levels.flatMap words).Perm r.names ∧
        ((r.levels.mapIdx fun i level =>
          (words level).map fun name => (name, UInt32.ofNat (i + 1))).flatten).Perm r.toMap) := by
  have hr := h.canonical
  refine ⟨_, groups?_eq r, ?_, ?_, hr.getLast?_levels_ne_nil, ?_, ?_, ?_, fun hsolid => ?_⟩
  · rw [levels, groups?_eq, Option.getD_some]
  · rw [levels_eq, List.length_map, List.length_range]
  · rintro i names hi
    obtain ⟨-, rfl⟩ := getElem?_groups.mp hi
    exact ⟨hr.pairwise_namesOf (i + 1), fun name => mem_namesOf_applied (Nat.succ_pos i)⟩
  · exact fun name hname => hr.existsUnique_group hname
  · rintro tag htag hzero names hnames hmem
    obtain ⟨i, -, rfl⟩ := List.mem_map.mp hnames
    exact hr.not_mem_namesOf htag hzero i hmem
  · refine ⟨?_, hr.flatMap_words_levels_perm hsolid, hr.mapIdx_levels_perm hsolid⟩
    rw [levels_eq, List.map_map]
    exact List.map_congr_left fun i _ => hr.words_level hsolid (i + 1)

/-- Two names of one strength, a level without names, and a name at strength zero. -/
theorem levels_group_names_gap :
    let r := ofEntries [(['b'], 3), (['a'], 1), (['C'], 3), (['z'], 0)]
    r.Reachable ∧ (∀ name ∈ r.registered, Solid name) ∧
      r.levels = [['a'], [], "b c".toList] ∧ r.levels.map words = [[['a']], [], [['b'], ['c']]] ∧
      (r.levels.flatMap words).Perm [['a'], ['b'], ['c']] := by
  intro r
  have hreachable : r.Reachable := .build (.entries _) rfl
  have hchecked : (r.registered.all fun name => name.all fun c => !isBlank c) = true := by decide
  have hsolid : ∀ name ∈ r.registered, Solid name := by
    intro name hname c hc
    simpa using List.all_eq_true.mp (List.all_eq_true.mp hchecked name hname) c hc
  have hgroups : r.groups? = some [[['a']], [], [['b'], ['c']]] := by decide +kernel
  obtain ⟨groups, hfilled, hlevels, -, -, -, -, -, hread⟩ := levels_group_names hreachable
  obtain rfl := Option.some.inj (hfilled.symm.trans hgroups)
  obtain ⟨hwords, hnames, -⟩ := hread hsolid
  exact ⟨hreachable, hsolid, hlevels, hwords, hnames⟩

end Questionnaire.Registry
