import Questionnaire.Proofs.StrengthMap

/-!
# Merging and withdrawing

Merging a registry into another raises every strength to the greater of the two, and
withdrawing it clears what is not above it.  On the maps that registries stand for both
work name by name, so registries that are merged one after the other may be merged with
each other first, and so may registries that are withdrawn one after the other: a clear
that finds a strength already at zero leaves it there.

## Main definitions

* `Registry.IsMaximum` — a registry has every tag of some others at its greatest strength.
* `Registry.mergeAll` — registries merged one after the other.

## Main results

* `Registry.Canonical.empty_merge` — a registry is made of its own tags.
* `Registry.Canonical.merge_merge`, `Registry.Canonical.withdraw_withdraw` — two registries in
  turn are the two merged.
* `Registry.foldl_merge`, `Registry.foldl_withdraw` — **so are any number of them.**
* `Registry.isMaximum_mergeAll`, `Registry.IsMaximum.eq_of_mem_iff` — what they are merged to,
  whatever their order.
-/

namespace Questionnaire

open Text

/-! ### Maps -/

namespace StrengthMap

/-- The map with every strength raised to that of another. -/
def raised (m other : StrengthMap) : StrengthMap := m.combine (fun v s => max s v) other

/-- The map without the strengths that are not above those of another. -/
def cleared (m other : StrengthMap) : StrengthMap :=
  m.combine (fun v s => if s ≤ v then 0 else s) other

theorem raised_apply (m other : StrengthMap) (key : Text) :
    m.raised other key = (other key).elim (m key) fun v => some (max ((m key).getD 0) v) := by
  unfold raised combine
  cases other key <;> rfl

theorem cleared_apply (m other : StrengthMap) (key : Text) : m.cleared other key =
    (other key).elim (m key) fun v => some (if (m key).getD 0 ≤ v then 0 else (m key).getD 0) := by
  unfold cleared combine
  cases other key <;> rfl

/-- A raised strength is one of the two that met. -/
theorem or_of_raised {m other : StrengthMap} {key : Text} {n : Nat}
    (h : m.raised other key = some n) : m key = some n ∨ other key = some n := by
  rw [raised_apply] at h
  cases hv : other key with
  | none =>
    rw [hv] at h
    exact Or.inl h
  | some v =>
    rw [hv, Option.elim_some] at h
    cases hs : m key with
    | none =>
      rw [hs, Option.getD_none, Nat.zero_max] at h
      exact Or.inr h
    | some s =>
      rw [hs, Option.getD_some] at h
      rcases Nat.le_total v s with hle | hle
      · rw [Nat.max_eq_left hle] at h
        exact Or.inl h
      · rw [Nat.max_eq_right hle] at h
        exact Or.inr h

theorem exists_le_raised_left {m : StrengthMap} {key : Text} {n : Nat} (h : m key = some n)
    (other : StrengthMap) : ∃ k, m.raised other key = some k ∧ n ≤ k := by
  rw [raised_apply, h]
  cases other key with
  | none => exact ⟨n, rfl, le_rfl⟩
  | some v => exact ⟨max n v, rfl, le_max_left n v⟩

theorem exists_le_raised_right {other : StrengthMap} {key : Text} {n : Nat}
    (h : other key = some n) (m : StrengthMap) : ∃ k, m.raised other key = some k ∧ n ≤ k := by
  rw [raised_apply, h]
  exact ⟨_, rfl, le_max_right _ n⟩

theorem raised_raised (m a b : StrengthMap) : (m.raised a).raised b = m.raised (a.raised b) := by
  funext key
  simp only [raised_apply]
  cases b key with
  | none => rfl
  | some w =>
    cases a key with
    | none => exact congrArg some (congrArg (max _) (Nat.zero_max w).symm)
    | some v => exact congrArg some (max_assoc _ v w)

/-- What is above neither of two strengths is not above the greater one. -/
theorem cleared_cleared (m a b : StrengthMap) :
    (m.cleared a).cleared b = m.cleared (a.raised b) := by
  funext key
  simp only [raised_apply, cleared_apply]
  cases b key with
  | none => rfl
  | some w =>
    cases a key with
    | none =>
      simp only [Option.elim_none, Option.elim_some, Option.getD_none, Nat.zero_max]
      rfl
    | some v =>
      simp only [Option.elim_some, Option.getD_some, Option.some.injEq]
      split_ifs <;> omega

end StrengthMap

namespace Registry

variable {r a b top : Registry} {rs : List Registry}

/-! ### One registry -/

theorem Canonical.merge (h : r.Canonical) (other : Registry) : (r.merge other).Canonical :=
  h.apply (.merge other)

theorem Canonical.withdraw (h : r.Canonical) (other : Registry) :
    (r.withdraw other).Canonical :=
  h.apply (.withdraw other)

theorem Canonical.strengths_merge (h : r.Canonical) (ha : a.Canonical) :
    (r.merge a).strengths = r.strengths.raised a.strengths :=
  h.strengths_apply (m := .merge a) fun _ hother => Option.some.inj hother ▸ ha

theorem Canonical.strengths_withdraw (h : r.Canonical) (ha : a.Canonical) :
    (r.withdraw a).strengths = r.strengths.cleared a.strengths :=
  h.strengths_apply (m := .withdraw a) fun _ hother => Option.some.inj hother ▸ ha

/-- A registry is made of its own tags: merged into the empty one it comes out as it is. -/
theorem Canonical.empty_merge (h : r.Canonical) : empty.merge r = r := by
  refine (canonical_empty.merge r).ext h ?_
  rw [canonical_empty.strengths_merge h]
  funext key
  rw [StrengthMap.raised_apply]
  -- the empty registry has no strength that could be greater
  cases r.strengths key with
  | none => rfl
  | some n => exact congrArg some (Nat.zero_max n)

/-- Two registries are merged in turn as one that they are merged to. -/
theorem Canonical.merge_merge (h : r.Canonical) (ha : a.Canonical) (hb : b.Canonical) :
    (r.merge a).merge b = r.merge (a.merge b) := by
  refine ((h.merge a).merge b).ext (h.merge _) ?_
  rw [(h.merge a).strengths_merge hb, h.strengths_merge ha, h.strengths_merge (ha.merge b),
    ha.strengths_merge hb, StrengthMap.raised_raised]

/-- Two registries are withdrawn in turn as one that they are merged to. -/
theorem Canonical.withdraw_withdraw (h : r.Canonical) (ha : a.Canonical) (hb : b.Canonical) :
    (r.withdraw a).withdraw b = r.withdraw (a.merge b) := by
  refine ((h.withdraw a).withdraw b).ext (h.withdraw _) ?_
  rw [(h.withdraw a).strengths_withdraw hb, h.strengths_withdraw ha,
    h.strengths_withdraw (ha.merge b), ha.strengths_merge hb, StrengthMap.cleared_cleared]

/-! ### Many registries -/

/-- The registries merged one after the other. -/
def mergeAll (rs : List Registry) : Registry := rs.foldl merge empty

theorem mergeAll_concat (rs : List Registry) (r : Registry) :
    mergeAll (rs ++ [r]) = (mergeAll rs).merge r := by
  rw [mergeAll, List.foldl_append]
  rfl

theorem canonical_mergeAll (rs : List Registry) : (mergeAll rs).Canonical := by
  induction rs using List.reverseRecOn with
  | nil => exact canonical_empty
  | append_singleton rs r ih =>
    rw [mergeAll_concat]
    exact ih.merge r

theorem reachable_mergeAll (h : ∀ r ∈ rs, r.Reachable) : (mergeAll rs).Reachable := by
  induction rs using List.reverseRecOn with
  | nil => exact .build .empty rfl
  | append_singleton rs r ih =>
    rw [List.forall_mem_append, List.forall_mem_singleton] at h
    rw [mergeAll_concat]
    exact .mutate (.merge r) (ih h.1) fun other hother => Option.some.inj hother ▸ h.2

/-- Registries are merged one after the other as one that they are merged to. -/
theorem foldl_merge (hr : r.Canonical) (h : ∀ a ∈ rs, a.Canonical) :
    rs.foldl merge r = r.merge (mergeAll rs) := by
  induction rs using List.reverseRecOn with
  | nil => rfl
  | append_singleton rs a ih =>
    rw [List.forall_mem_append, List.forall_mem_singleton] at h
    rw [List.foldl_append, ih h.1, mergeAll_concat]
    exact hr.merge_merge (canonical_mergeAll rs) h.2

/-- Registries are withdrawn one after the other as one that they are merged to. -/
theorem foldl_withdraw (hr : r.Canonical) (h : ∀ a ∈ rs, a.Canonical) :
    rs.foldl withdraw r = r.withdraw (mergeAll rs) := by
  induction rs using List.reverseRecOn with
  | nil => rfl
  | append_singleton rs a ih =>
    rw [List.forall_mem_append, List.forall_mem_singleton] at h
    rw [List.foldl_append, ih h.1, mergeAll_concat]
    exact hr.withdraw_withdraw (canonical_mergeAll rs) h.2

/-! ### The maximum -/

/-- A registry has every tag of some others, at the greatest strength that one of them
gives it. -/
structure IsMaximum (top : Registry) (rs : List Registry) : Prop where
  /-- What it has comes from one of them. -/
  attained : ∀ key n, top.strengths key = some n → ∃ r ∈ rs, r.strengths key = some n
  /-- None of them has anything above it. -/
  above : ∀ r ∈ rs, ∀ key n, r.strengths key = some n →
    ∃ m, top.strengths key = some m ∧ n ≤ m

/-- A further registry is merged into the maximum. -/
theorem IsMaximum.merge (h : top.IsMaximum rs) (htop : top.Canonical) (hr : r.Canonical) :
    (top.merge r).IsMaximum (rs ++ [r]) := by
  have hmerge := htop.strengths_merge hr
  refine ⟨fun key n hn => ?_, fun a ha key n hn => ?_⟩
  · rw [hmerge] at hn
    rcases StrengthMap.or_of_raised hn with hold | hnew
    · obtain ⟨a, ha, han⟩ := h.attained key n hold
      exact ⟨a, List.mem_append_left _ ha, han⟩
    · exact ⟨r, List.mem_append_right _ (List.mem_singleton_self r), hnew⟩
  · rw [hmerge]
    rcases List.mem_append.mp ha with ha | ha
    · obtain ⟨m, hm, hnm⟩ := h.above a ha key n hn
      obtain ⟨k, hk, hmk⟩ := StrengthMap.exists_le_raised_left hm r.strengths
      exact ⟨k, hk, hnm.trans hmk⟩
    · obtain rfl := List.mem_singleton.mp ha
      exact StrengthMap.exists_le_raised_right hn top.strengths

theorem isMaximum_mergeAll (h : ∀ r ∈ rs, r.Canonical) : (mergeAll rs).IsMaximum rs := by
  induction rs using List.reverseRecOn with
  | nil =>
    refine ⟨fun key n hn => ?_, fun r hr => absurd hr List.not_mem_nil⟩
    cases hn
  | append_singleton rs r ih =>
    rw [List.forall_mem_append, List.forall_mem_singleton] at h
    rw [mergeAll_concat]
    exact (ih h.1).merge (canonical_mergeAll rs) h.2

theorem IsMaximum.exists_le {rs' : List Registry} (ha : a.IsMaximum rs) (hb : b.IsMaximum rs')
    (hsub : ∀ r ∈ rs, r ∈ rs') {key : Text} {n : Nat} (hn : a.strengths key = some n) :
    ∃ m, b.strengths key = some m ∧ n ≤ m := by
  obtain ⟨r, hr, hrn⟩ := ha.attained key n hn
  exact hb.above r (hsub r hr) key n hrn

theorem IsMaximum.strengths_of_mem_iff {rs' : List Registry} (ha : a.IsMaximum rs)
    (hb : b.IsMaximum rs') (hmem : ∀ r, r ∈ rs ↔ r ∈ rs') {key : Text} {n : Nat}
    (hn : a.strengths key = some n) : b.strengths key = some n := by
  obtain ⟨m, hm, hnm⟩ := ha.exists_le hb (fun r => (hmem r).mp) hn
  obtain ⟨k, hk, hmk⟩ := hb.exists_le ha (fun r => (hmem r).mpr) hm
  obtain rfl : n = k := Option.some.inj (hn.symm.trans hk)
  exact le_antisymm hnm hmk ▸ hm

/-- The maximum does not depend on the order of the registries, nor on how often one comes. -/
theorem IsMaximum.eq_of_mem_iff {rs' : List Registry} (ha : a.IsMaximum rs) (hb : b.IsMaximum rs')
    (hcanonical : a.Canonical) (hcanonical' : b.Canonical) (hmem : ∀ r, r ∈ rs ↔ r ∈ rs') :
    a = b := by
  refine hcanonical.ext hcanonical' (funext fun key => Option.ext fun n => ?_)
  exact ⟨ha.strengths_of_mem_iff hb hmem, hb.strengths_of_mem_iff ha fun r => (hmem r).symm⟩

/-- Registries are merged to the same whatever their order and however often one comes. -/
theorem mergeAll_congr {rs' : List Registry} (h : ∀ r ∈ rs, r.Canonical)
    (hmem : ∀ r, r ∈ rs ↔ r ∈ rs') : mergeAll rs = mergeAll rs' := by
  have h' : ∀ r ∈ rs', r.Canonical := fun r hr => h r ((hmem r).mpr hr)
  exact (isMaximum_mergeAll h).eq_of_mem_iff (isMaximum_mergeAll h') (canonical_mergeAll rs)
    (canonical_mergeAll rs') hmem

end Registry

end Questionnaire
