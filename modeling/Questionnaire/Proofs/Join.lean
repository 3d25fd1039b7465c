import Mathlib.Order.Bounds.Defs
import Questionnaire.Proofs.CaseInsensitive
import Questionnaire.Proofs.Merging

/-!
# Merging is a join

Merging takes the greater of two strengths under every name, so it does not matter which of
two registries is merged into which, in what order several are merged, or how often one of
them comes: registries are a semilattice with the empty registry at its bottom.  Withdrawing
lets this semilattice act on registries, and as a registry is built by raising one entry
after the other, it is the merge of what its entries make one by one.

## Main definitions

* `Registry.atZero` — a registry with all its tags at strength zero.

## Main results

* `Registry.Canonical.merge_comm`, `Registry.Canonical.merge_self` — the laws of a join.
* `Registry.Canonical.merge_withdraw` — what is merged and withdrawn again.
* `Registry.Canonical.withdraw_self` — a registry withdrawn from itself.
* `Registry.ofEntries_eq_mergeAll` — a registry is the merge of its entries.
* `Registry.merging_is_join` — **merging is a join, and withdrawing an action of it.**
-/

namespace Questionnaire

open Text

namespace Registry

variable {r a b c top : Registry} {rs : List Registry}

/-! ### The laws of merging -/

theorem Canonical.mergeAll_singleton (ha : a.Canonical) : mergeAll [a] = a := ha.empty_merge

theorem Canonical.mergeAll_pair (ha : a.Canonical) (b : Registry) :
    mergeAll [a, b] = a.merge b := by
  rw [mergeAll, List.foldl_cons, ha.empty_merge]
  rfl

/-- Of two registries it does not matter which is merged into which. -/
theorem Canonical.merge_comm (ha : a.Canonical) (hb : b.Canonical) : a.merge b = b.merge a := by
  have hboth : ∀ r ∈ [a, b], r.Canonical := List.forall_mem_cons.mpr
    ⟨ha, List.forall_mem_singleton.mpr hb⟩
  rw [← ha.mergeAll_pair, ← hb.mergeAll_pair]
  refine mergeAll_congr hboth fun r => ?_
  rw [List.mem_pair, List.mem_pair, or_comm]

/-- Merging a registry into itself changes nothing. -/
theorem Canonical.merge_self (ha : a.Canonical) : a.merge a = a := by
  have hboth : ∀ r ∈ [a, a], r.Canonical := List.forall_mem_cons.mpr
    ⟨ha, List.forall_mem_singleton.mpr ha⟩
  have honce : mergeAll [a, a] = mergeAll [a] := by
    refine mergeAll_congr hboth fun r => ?_
    rw [List.mem_pair, List.mem_singleton, or_self]
  rwa [ha.mergeAll_pair, ha.mergeAll_singleton] at honce

/-! ### The laws of withdrawing -/

/-- Two registries are withdrawn in any order. -/
theorem Canonical.withdraw_comm (hr : r.Canonical) (ha : a.Canonical) (hb : b.Canonical) :
    (r.withdraw a).withdraw b = (r.withdraw b).withdraw a := by
  rw [hr.withdraw_withdraw ha hb, hr.withdraw_withdraw hb ha, ha.merge_comm hb]

/-- Withdrawing a registry once more changes nothing. -/
theorem Canonical.withdraw_again (hr : r.Canonical) (ha : a.Canonical) :
    (r.withdraw a).withdraw a = r.withdraw a := by
  rw [hr.withdraw_withdraw ha ha, ha.merge_self]

/-- What is merged and withdrawn again is withdrawn: a raised strength is above what it was
raised to only if it was before. -/
theorem Canonical.merge_withdraw (hr : r.Canonical) (ha : a.Canonical) :
    (r.merge a).withdraw a = r.withdraw a := by
  refine ((hr.merge a).withdraw a).ext (hr.withdraw a) ?_
  rw [(hr.merge a).strengths_withdraw ha, hr.strengths_merge ha, hr.strengths_withdraw ha]
  funext key
  rw [StrengthMap.cleared_apply, StrengthMap.raised_apply, StrengthMap.cleared_apply]
  cases a.strengths key with
  | none => rfl
  | some v =>
    rw [Option.elim_some, Option.elim_some, Option.elim_some, Option.getD_some]
    rcases Nat.lt_or_ge v ((r.strengths key).getD 0) with hlt | hle
    · rw [max_eq_left hlt.le]
    · rw [max_eq_right hle, if_pos le_rfl, if_pos hle]

/-- The registry with all its tags at strength zero. -/
def atZero (r : Registry) : Registry :=
  ⟨r.tags.map fun entry => (entry.1, ⟨entry.2.name, 0⟩)⟩

theorem listing_atZero (r : Registry) :
    r.atZero.listing = r.listing.map fun tag => ⟨tag.name, 0⟩ := by
  rw [listing, atZero, listing, List.map_map, List.map_map]
  rfl

theorem Canonical.atZero (h : r.Canonical) : r.atZero.Canonical := by
  have hnames : r.atZero.tags.names = r.tags.names := by
    rw [Index.names, Registry.atZero, List.map_map]
    rfl
  refine ⟨?_, ?_, ?_, ?_⟩
  · rw [Index.Ascending, hnames]
    exact h.ascending
  · exact List.forall_mem_map.mpr h.name_eq
  · exact List.forall_mem_map.mpr h.ne_nil
  · exact List.forall_mem_map.mpr h.lowercase_eq

theorem strengths_atZero (r : Registry) (key : Text) :
    r.atZero.strengths key = (r.strengths key).map fun _ => 0 := by
  rw [strengths, atZero, Index.find?_map fun tag : Tag => (⟨tag.name, 0⟩ : Tag), strengths,
    Option.map_map, Option.map_map]
  rfl

/-- Withdrawn from itself a registry keeps its names, and loses its strengths. -/
theorem Canonical.withdraw_self (h : r.Canonical) : r.withdraw r = r.atZero := by
  refine (h.withdraw r).ext h.atZero ?_
  rw [h.strengths_withdraw h]
  funext key
  rw [StrengthMap.cleared_apply, strengths_atZero]
  cases r.strengths key with
  | none => rfl
  | some n => exact congrArg some (if_pos le_rfl)

/-! ### Entries -/

theorem ofEntries_concat (entries : List (Text × Strength)) (entry : Text × Strength) :
    ofEntries (entries ++ [entry]) = (ofEntries entries).touch (.raise entry.2) entry.1 := by
  rw [ofEntries, raiseEach, List.foldl_append]
  rfl

theorem canonical_ofEntries (entries : List (Text × Strength)) :
    (ofEntries entries).Canonical :=
  Reachable.canonical (.build (.entries entries) rfl)

/-- One entry makes one tag. -/
theorem listing_ofEntries_singleton {name : Text} (hname : name ≠ []) (v : Strength) :
    (ofEntries [(name, v)]).listing = [⟨lowercase name, v⟩] := by
  have hv : (Change.raise v).apply 0 = v := by
    rw [← UInt32.toNat_inj, Change.toNat_apply_raise]
    exact Nat.zero_max _
  have hone : ofEntries [(name, v)] = empty.touch (.raise v) name := rfl
  rw [hone, touch_of_ne_nil hname, listing, empty, Index.alter_nil, touched, Option.getD_none, hv]
  rfl

/-- Merging what one entry makes is raising its tag. -/
theorem merge_ofEntries_singleton (r : Registry) (entry : Text × Strength) :
    r.merge (ofEntries [entry]) = r.touch (.raise entry.2) entry.1 := by
  obtain ⟨name, v⟩ := entry
  by_cases hname : name = []
  · rw [hname, touch_nil]
    rfl
  · rw [merge, listing_ofEntries_singleton hname, ← touch_lowercase]
    rfl

/-- **A registry is the merge of its entries**, each by itself. -/
theorem ofEntries_eq_mergeAll (entries : List (Text × Strength)) :
    ofEntries entries = mergeAll (entries.map fun entry => ofEntries [entry]) := by
  induction entries using List.reverseRecOn with
  | nil => rfl
  | append_singleton entries entry ih =>
    rw [ofEntries_concat, List.map_append, List.map_singleton, mergeAll_concat, ← ih,
      merge_ofEntries_singleton]

/-- The order of entries does not matter. -/
theorem ofEntries_perm {entries entries' : List (Text × Strength)}
    (h : entries.Perm entries') : ofEntries entries = ofEntries entries' := by
  rw [ofEntries_eq_mergeAll, ofEntries_eq_mergeAll]
  refine mergeAll_congr ?_ fun r => (h.map _).mem_iff
  exact List.forall_mem_map.mpr fun entry _ => canonical_ofEntries [entry]

theorem strengths_ofEntries_singleton (entry : Text × Strength) (key : Text) (n : Nat) :
    (ofEntries [entry]).strengths key = some n ↔
      entry.1 ≠ [] ∧ lowercase entry.1 = key ∧ entry.2.toNat = n := by
  have hone : ofEntries [entry] = empty.touch (.raise entry.2) entry.1 := rfl
  rw [hone, canonical_empty.strengths_touch, StrengthMap.touch]
  by_cases hkey : entry.1 ≠ [] ∧ key = lowercase entry.1
  · have hzero : (Change.raise entry.2).onNat ((empty.strengths key).getD 0) = entry.2.toNat :=
      Nat.zero_max _
    rw [if_pos hkey, hzero, Option.some.injEq]
    exact ⟨fun h => ⟨hkey.1, hkey.2.symm, h⟩, fun h => h.2.2⟩
  · rw [if_neg hkey]
    exact iff_of_false (fun h => Option.some_ne_none n h.symm) fun h => hkey ⟨h.1, h.2.1.symm⟩

/-- The maximum has under each name the greatest of the strengths there. -/
theorem IsMaximum.strengths_eq_some_iff (h : top.IsMaximum rs) {key : Text} {n : Nat} :
    top.strengths key = some n ↔ IsGreatest {m | ∃ r ∈ rs, r.strengths key = some m} n := by
  have hgreatest : ∀ n, top.strengths key = some n →
      IsGreatest {m | ∃ r ∈ rs, r.strengths key = some m} n := by
    intro n hn
    refine ⟨h.attained key n hn, ?_⟩
    rintro m ⟨r, hr, hm⟩
    obtain ⟨k, hk, hmk⟩ := h.above r hr key m hm
    exact hmk.trans (Option.some.inj (hk.symm.trans hn)).le
  refine ⟨hgreatest n, fun hn => ?_⟩
  obtain ⟨r, hr, hrn⟩ := hn.1
  obtain ⟨k, hk, hnk⟩ := h.above r hr key n hrn
  rw [hk, le_antisymm hnk (hn.2 (hgreatest k hk).1)]

/-- Of entries whose names differ only in case the greatest strength stays. -/
theorem strengths_ofEntries (entries : List (Text × Strength)) (key : Text) (n : Nat) :
    (ofEntries entries).strengths key = some n ↔
      IsGreatest {m | ∃ entry ∈ entries,
        entry.1 ≠ [] ∧ lowercase entry.1 = key ∧ entry.2.toNat = m} n := by
  have hcanonical : ∀ r ∈ entries.map fun entry => ofEntries [entry], r.Canonical :=
    List.forall_mem_map.mpr fun entry _ => canonical_ofEntries [entry]
  rw [ofEntries_eq_mergeAll, (isMaximum_mergeAll hcanonical).strengths_eq_some_iff]
  simp only [List.mem_map, exists_exists_and_eq_and, strengths_ofEntries_singleton]

/-! ### The theorem -/

/-- **Merging is a join, and withdrawing an action of it.**  For registries that can be
reached, merging is commutative, associative and idempotent, and a registry that is merged
into the empty one comes out as it is.  Withdrawing two registries in turn is withdrawing
the one that they are merged to, so withdrawals commute and need not be repeated, and a
registry withdrawn from itself keeps its names at strength zero.  A registry of entries is
the merge of what the entries make one by one; their order does not matter, and of names
that differ only in case the greatest strength stays. -/
theorem merging_is_join (ha : a.Reachable) (hb : b.Reachable) (hc : c.Reachable) :
    (a.merge b = b.merge a ∧ (a.merge b).merge c = a.merge (b.merge c) ∧ a.merge a = a ∧
      empty.merge a = a) ∧
    ((a.withdraw b).withdraw c = a.withdraw (b.merge c) ∧
      (a.withdraw b).withdraw c = (a.withdraw c).withdraw b ∧
      (a.withdraw b).withdraw b = a.withdraw b ∧
      (a.withdraw a).listing = a.listing.map fun tag => ⟨tag.name, 0⟩) ∧
    ∀ entries : List (Text × Strength),
      ofEntries entries = mergeAll (entries.map fun entry => ofEntries [entry]) ∧
      (∀ entries', entries.Perm entries' → ofEntries entries = ofEntries entries') ∧
      ∀ key n, (ofEntries entries).strengths key = some n ↔
        IsGreatest {m | ∃ entry ∈ entries,
          entry.1 ≠ [] ∧ lowercase entry.1 = key ∧ entry.2.toNat = m} n := by
  have ha := ha.canonical
  have hb := hb.canonical
  have hc := hc.canonical
  refine ⟨⟨ha.merge_comm hb, ha.merge_merge hb hc, ha.merge_self, ha.empty_merge⟩,
    ⟨ha.withdraw_withdraw hb hc, ha.withdraw_comm hb hc, ha.withdraw_again hb, ?_⟩,
    fun entries => ⟨ofEntries_eq_mergeAll entries, fun _ => ofEntries_perm,
      strengths_ofEntries entries⟩⟩
  rw [ha.withdraw_self, listing_atZero]

/-- A tag at strength zero, a strength that is cleared only by the second registry, and entries
that differ in case. -/
theorem merging_is_join_cases :
    let a := ofEntries [("X".toList, 2), ("y".toList, 0)]
    let b := ofWords "Y z".toList 1
    let c := ofEntries [("x".toList, 3)]
    let entries : List (Text × Strength) := [("İ".toList, 1), ("q".toList, 4), ("i̇".toList, 7)]
    a.Reachable ∧ b.Reachable ∧ c.Reachable ∧
      a.merge b = b.merge a ∧
      (a.merge b).listing.map Tag.write = ["x=2".toList, "y=1".toList, "z=1".toList] ∧
      (a.withdraw b).withdraw c = a.withdraw (b.merge c) ∧
      (a.withdraw b).listing.map Tag.write = ["x=2".toList, "y=0".toList, "z=0".toList] ∧
      ((a.withdraw b).withdraw c).listing.map Tag.write =
        ["x=0".toList, "y=0".toList, "z=0".toList] ∧
      ofEntries entries = ofEntries entries.reverse ∧
      (ofEntries entries).listing.map Tag.write = ["i̇=7".toList, "q=4".toList] := by
  intro a b c entries
  have ha : a.Reachable := .build (.entries [("X".toList, 2), ("y".toList, 0)]) rfl
  have hb : b.Reachable := .build (.words "Y z".toList 1) rfl
  have hc : c.Reachable := .build (.entries [("x".toList, 3)]) rfl
  obtain ⟨⟨hcomm, -⟩, ⟨haction, -⟩, hentries⟩ := merging_is_join ha hb hc
  exact ⟨ha, hb, hc, hcomm, by decide +kernel, haction, by decide +kernel, by decide +kernel,
    (hentries entries).2.1 _ entries.reverse_perm.symm, by decide +kernel⟩

end Registry

end Questionnaire
