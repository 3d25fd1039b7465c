import Questionnaire.Proofs.CaseInsensitive
import Questionnaire.Proofs.Merging

/-!
# Rules carried out in one pass

Several rules may be applied to one registry, or retracted from it, one after the other.
Applying a rule is merging and retracting it is withdrawing, so a pass over many triggers
is one step with all their registries merged; that registry is the maximum of those that
are bound, and depends on the set of triggers alone, whatever their order, their case and
their repetitions.

## Main definitions

* `RuleTable.Reachable` — what can be made of the empty table by rules and edits.
* `RuleTable.applyAll`, `RuleTable.retractAll` — the rules of many triggers, one after the other.
* `RuleTable.claims` — the registries of many triggers, merged.

## Main results

* `RuleTable.Reachable.rules_reachable` — edits leave the registries of a table reachable.
* `RuleTable.applyAll_eq_merge`, `RuleTable.retractAll_eq_withdraw` — a pass is one step.
* `RuleTable.claims_congr` — the step depends on the set of triggers.
* `RuleTable.passes_see_sets_of_triggers` — **the order of rules does not show.**
-/

namespace Questionnaire

open Text

namespace RuleTable

variable {t : RuleTable} {target : Registry}

/-! ### Tables -/

/-- What can be made of the empty table by rules and by edits of the registries behind
triggers. -/
inductive Reachable : RuleTable → Prop
  /-- The table without rules. -/
  | empty : Reachable .empty
  /-- A table with a further rule. -/
  | addRule {t : RuleTable} (triggers dependents : Text) (h : Reachable t) :
    Reachable (t.addRule triggers dependents)
  /-- A table with an edit. -/
  | alter {t : RuleTable} (trigger : Text) {f : Registry → Registry} (h : Reachable t)
    (hf : ∀ r : Registry, r.Reachable → (f r).Reachable) : Reachable (t.alterDependents f trigger)

/-- Rules and edits leave the registries of a table reachable. -/
theorem Reachable.rules_reachable (h : t.Reachable) : ∀ r ∈ t.rules, r.Reachable := by
  induction h with
  | empty => exact fun r hr => absurd hr List.not_mem_nil
  | @addRule t triggers dependents _ ih =>
    cases heffective : (RuleAction.addRule triggers dependents).effective with
    | false =>
      rw [RuleTable.addRule_of_not_effective heffective]
      exact ih
    | true =>
      rw [RuleTable.addRule_of_effective heffective, List.forall_mem_append,
        List.forall_mem_singleton]
      exact ⟨ih, .build (.words dependents ruleStrength) rfl⟩
  | @alter t trigger f _ hf ih =>
    unfold alterDependents
    cases t.ruleOf? trigger with
    | none => exact ih
    | some number =>
      intro r hr
      obtain ⟨i, hi⟩ := List.mem_iff_getElem?.mp hr
      rw [List.getElem?_modify, Option.map_eq_map, Option.map_eq_some_iff] at hi
      obtain ⟨old, hold, hr⟩ := hi
      have hreachable := ih old (List.mem_of_getElem? hold)
      split at hr
      · exact hr ▸ hf old hreachable
      · exact hr ▸ hreachable

/-- What a trigger is bound to is one of the registries. -/
theorem mem_rules_of_dependents? {trigger : Text} {r : Registry}
    (h : t.dependents? trigger = some r) : r ∈ t.rules := by
  obtain ⟨number, -, hr⟩ := Option.bind_eq_some_iff.mp h
  exact List.mem_of_getElem? hr

/-! ### Passes -/

/-- The target with the rules of triggers applied, one after the other. -/
def applyAll (t : RuleTable) (triggers : List Text) (target : Registry) : Registry :=
  triggers.foldl (fun target trigger => t.applyRule trigger target) target

/-- The target with the rules of triggers retracted, one after the other. -/
def retractAll (t : RuleTable) (triggers : List Text) (target : Registry) : Registry :=
  triggers.foldl (fun target trigger => t.retractRule trigger target) target

/-- The registries that triggers are bound to, merged. -/
def claims (t : RuleTable) (triggers : List Text) : Registry :=
  Registry.mergeAll (triggers.filterMap t.dependents?)

/-- Triggers without a rule may be left out. -/
theorem applyAll_eq_foldl (triggers : List Text) (target : Registry) :
    t.applyAll triggers target =
      (triggers.filterMap t.dependents?).foldl Registry.merge target := by
  rw [List.foldl_filterMap, applyAll]
  congr 1
  funext target trigger
  rw [applyRule]
  cases t.dependents? trigger <;> rfl

theorem retractAll_eq_foldl (triggers : List Text) (target : Registry) :
    t.retractAll triggers target =
      (triggers.filterMap t.dependents?).foldl Registry.withdraw target := by
  rw [List.foldl_filterMap, retractAll]
  congr 1
  funext target trigger
  rw [retractRule]
  cases t.dependents? trigger <;> rfl

theorem Reachable.claimed (h : t.Reachable) (triggers : List Text) :
    ∀ r ∈ triggers.filterMap t.dependents?, r.Reachable := by
  intro r hr
  obtain ⟨trigger, -, hbound⟩ := List.mem_filterMap.mp hr
  exact h.rules_reachable r (mem_rules_of_dependents? hbound)

theorem Reachable.canonical_of_claimed (h : t.Reachable) (triggers : List Text) :
    ∀ r ∈ triggers.filterMap t.dependents?, r.Canonical :=
  fun r hr => (h.claimed triggers r hr).canonical

/-- Applying rules in turn is merging their registries at once. -/
theorem applyAll_eq_merge (h : t.Reachable) (htarget : target.Canonical) (triggers : List Text) :
    t.applyAll triggers target = target.merge (t.claims triggers) := by
  rw [applyAll_eq_foldl]
  exact Registry.foldl_merge htarget (h.canonical_of_claimed triggers)

/-- Retracting rules in turn is withdrawing their registries at once. -/
theorem retractAll_eq_withdraw (h : t.Reachable) (htarget : target.Canonical)
    (triggers : List Text) :
    t.retractAll triggers target = target.withdraw (t.claims triggers) := by
  rw [retractAll_eq_foldl]
  exact Registry.foldl_withdraw htarget (h.canonical_of_claimed triggers)

/-- The triggers of a pass count as a set of lowercase names. -/
theorem mem_claimed_iff (triggers : List Text) (r : Registry) :
    r ∈ triggers.filterMap t.dependents? ↔
      ∃ key ∈ triggers.map lowercase, t.dependents? key = some r := by
  rw [List.mem_filterMap]
  constructor
  · rintro ⟨trigger, hmem, hr⟩
    refine ⟨lowercase trigger, List.mem_map_of_mem hmem, ?_⟩
    rw [← hr]
    exact dependents?_congr (lowercase_lowercase trigger) t
  · rintro ⟨_, hmem, hr⟩
    obtain ⟨trigger, htrigger, rfl⟩ := List.mem_map.mp hmem
    refine ⟨trigger, htrigger, ?_⟩
    rw [← hr]
    exact dependents?_congr (lowercase_lowercase trigger).symm t

theorem claims_congr (h : t.Reachable) {triggers triggers' : List Text}
    (hset : ∀ key, key ∈ triggers.map lowercase ↔ key ∈ triggers'.map lowercase) :
    t.claims triggers = t.claims triggers' := by
  refine Registry.mergeAll_congr (h.canonical_of_claimed triggers) fun r => ?_
  simp only [mem_claimed_iff, hset]

/-- The names whose flag is exactly one. -/
def flagged (flags : List (Text × Strength)) : List Text :=
  (flags.filter fun flag => flag.2 = 1).map (·.1)

/-- Applying rules to begin with is a pass over the names whose flag is one. -/
theorem applyInitial_eq_applyAll (flags : List (Text × Strength)) (target : Registry) :
    t.applyInitial flags target = t.applyAll (flagged flags) target := by
  rw [applyAll, flagged, List.foldl_map, List.foldl_filter]
  simp only [decide_eq_true_eq]
  rfl

theorem mem_map_flagged (flags : List (Text × Strength)) (key : Text) :
    key ∈ (flagged flags).map lowercase ↔ ∃ name, (name, 1) ∈ flags ∧ lowercase name = key := by
  simp only [flagged, List.mem_map, List.mem_filter, decide_eq_true_eq]
  constructor
  · rintro ⟨name, ⟨⟨_, flag⟩, ⟨hmem, rfl⟩, rfl⟩, rfl⟩
    exact ⟨_, hmem, rfl⟩
  · rintro ⟨name, hmem, rfl⟩
    exact ⟨name, ⟨(name, 1), ⟨hmem, rfl⟩, rfl⟩, rfl⟩

/-! ### The theorem -/

/-- **The order of rules does not show.**  Applying the rules of triggers one after the other
is merging one registry into the target, and retracting them is withdrawing that same
registry; it is the maximum of the registries that the triggers are bound to.  So the
triggers count as a set of lowercase names: their order, their repetitions and their case
do not matter, and of the flags of an initial set only the names with flag one do. -/
theorem passes_see_sets_of_triggers (ht : t.Reachable) (htarget : target.Reachable) :
    (∀ triggers : List Text, ∃ top : Registry, top.Reachable ∧
      top.IsMaximum (triggers.filterMap t.dependents?) ∧
      t.applyAll triggers target = target.merge top ∧
      t.retractAll triggers target = target.withdraw top) ∧
    (∀ triggers triggers' : List Text,
      (∀ key, key ∈ triggers.map lowercase ↔ key ∈ triggers'.map lowercase) →
        t.applyAll triggers target = t.applyAll triggers' target ∧
        t.retractAll triggers target = t.retractAll triggers' target) ∧
    ∀ flags flags' : List (Text × Strength),
      (∀ key, (∃ name, (name, 1) ∈ flags ∧ lowercase name = key) ↔
        ∃ name, (name, 1) ∈ flags' ∧ lowercase name = key) →
      t.applyInitial flags target = t.applyInitial flags' target := by
  have hset : ∀ triggers triggers' : List Text,
      (∀ key, key ∈ triggers.map lowercase ↔ key ∈ triggers'.map lowercase) →
        t.applyAll triggers target = t.applyAll triggers' target ∧
        t.retractAll triggers target = t.retractAll triggers' target := by
    intro triggers triggers' hkeys
    rw [applyAll_eq_merge ht htarget.canonical, applyAll_eq_merge ht htarget.canonical,
      retractAll_eq_withdraw ht htarget.canonical, retractAll_eq_withdraw ht htarget.canonical,
      claims_congr ht hkeys]
    exact ⟨rfl, rfl⟩
  refine ⟨fun triggers => ⟨t.claims triggers, ?_, ?_, ?_, ?_⟩, hset, ?_⟩
  · exact Registry.reachable_mergeAll (ht.claimed triggers)
  · exact Registry.isMaximum_mergeAll (ht.canonical_of_claimed triggers)
  · exact applyAll_eq_merge ht htarget.canonical triggers
  · exact retractAll_eq_withdraw ht htarget.canonical triggers
  · intro flags flags' hflags
    rw [applyInitial_eq_applyAll, applyInitial_eq_applyAll]
    refine (hset _ _ fun key => ?_).1
    rw [mem_map_flagged, mem_map_flagged]
    exact hflags key

/-- Rules that overlap, one of them edited up and down to zero; the triggers in another order,
in another case, repeated, and with one that is not bound. -/
theorem passes_see_sets_of_triggers_overlapping :
    let t := ((empty.addRule "a B".toList "x y".toList).addRule ['c'] "y z".toList).alterDependents
      (fun r => (r.touch (.raise 3) ['y']).touch (.clear 1) ['z']) ['C']
    let target := Registry.ofWords "y w".toList 2
    let triggers := ["A".toList, "c".toList, "no".toList, "b".toList, "a".toList]
    let triggers' := ["NO".toList, "B".toList, "a".toList, "C".toList]
    t.Reachable ∧ target.Reachable ∧
      t.applyAll triggers target = t.applyAll triggers' target ∧
      t.retractAll triggers target = t.retractAll triggers' target ∧
      (t.applyAll triggers target).listing.map Tag.write =
        ["w=2".toList, "x=1".toList, "y=3".toList, "z=0".toList] ∧
      (t.retractAll triggers target).listing.map Tag.write =
        ["w=2".toList, "x=0".toList, "y=0".toList, "z=0".toList] ∧
      t.applyInitial [(['C'], 1), (['a'], 2)] target =
        t.applyInitial [(['a'], 0), (['c'], 1), (['C'], 1)] target := by
  intro t target triggers triggers'
  have hedit : ∀ r : Registry, r.Reachable →
      ((r.touch (.raise 3) ['y']).touch (.clear 1) ['z']).Reachable := by
    intro r hr
    have hraised : (r.touch (.raise 3) ['y']).Reachable :=
      .mutate (.touch (.raise 3) ['y']) hr fun _ hother => nomatch hother
    exact .mutate (.touch (.clear 1) ['z']) hraised fun _ hother => nomatch hother
  have ht : t.Reachable :=
    .alter ['C'] (.addRule ['c'] "y z".toList (.addRule "a B".toList "x y".toList .empty)) hedit
  have htarget : target.Reachable := .build (.words "y w".toList 2) rfl
  obtain ⟨-, hset, hinitial⟩ := passes_see_sets_of_triggers ht htarget
  have hkeys : ∀ key, key ∈ triggers.map lowercase ↔ key ∈ triggers'.map lowercase := by
    have hlower : triggers.map lowercase = [['a'], ['c'], ['n', 'o'], ['b'], ['a']] := by
      decide +kernel
    have hlower' : triggers'.map lowercase = [['n', 'o'], ['b'], ['a'], ['c']] := by
      decide +kernel
    rw [hlower, hlower']
    intro key
    simp only [List.mem_cons, List.not_mem_nil, or_false]
    tauto
  obtain ⟨happlied, hretracted⟩ := hset triggers triggers' hkeys
  refine ⟨ht, htarget, happlied, hretracted, by decide +kernel, by decide +kernel, ?_⟩
  refine hinitial _ _ fun key => ?_
  have hlower : lowercase ['C'] = ['c'] := by decide +kernel
  have hlower' : lowercase ['c'] = ['c'] := by decide +kernel
  simp [hlower, hlower']

end RuleTable

end Questionnaire
