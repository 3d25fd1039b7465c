import Questionnaire.Proofs.Join
import Questionnaire.Proofs.RulePasses

/-!
# Rules that are retracted

A rule claims its dependents at the strengths that it gives to them.  Applying it raises
every dependent to its claim, and retracting it clears those that are not above their claim,
so a rule that is applied and retracted leaves a dependent only where the target had a
stronger claim of its own; it does not matter whether the rule was applied at all.  A
dependent stays registered, and what the rule does not name is left alone.

## Main results

* `RuleTable.retractRule_applyRule` — applying does not show after retracting.
* `RuleTable.retractRule_retractRule` — retracting once more changes nothing.
* `RuleTable.retract_keeps_stronger_claims` — **what is left of a rule that is applied and
  retracted.**
-/

namespace Questionnaire

open Text

/-! ### Registered names -/

namespace Registry

variable {r a : Registry}

/-- A name is registered if it has a strength. -/
theorem Canonical.not_mem_registered_iff (h : r.Canonical) {key : Text} :
    key ∉ r.registered ↔ r.strengths key = none := by
  rw [h.registered_eq, strengths, Option.map_eq_none_iff, Index.find?_eq_none_iff]

/-- Withdrawing registers the names of the other registry. -/
theorem Canonical.mem_registered_withdraw (h : r.Canonical) (ha : a.Canonical) (key : Text) :
    key ∈ (r.withdraw a).registered ↔ key ∈ r.registered ∨ key ∈ a.registered := by
  rw [← not_iff_not, not_or, (h.withdraw a).not_mem_registered_iff, h.not_mem_registered_iff,
    ha.not_mem_registered_iff, h.strengths_withdraw ha, StrengthMap.cleared_apply]
  cases a.strengths key with
  | none => exact (and_iff_left rfl).symm
  | some v => exact iff_of_false (fun hnone => nomatch hnone) fun hand => nomatch hand.2

end Registry

/-! ### One rule -/

namespace RuleTable

variable {t : RuleTable} {target d : Registry} {trigger : Text}

theorem applyRule_of_some (h : t.dependents? trigger = some d) (target : Registry) :
    t.applyRule trigger target = target.merge d := by
  rw [applyRule, h]

theorem retractRule_of_some (h : t.dependents? trigger = some d) (target : Registry) :
    t.retractRule trigger target = target.withdraw d := by
  rw [retractRule, h]

theorem applyRule_of_none (h : t.dependents? trigger = none) (target : Registry) :
    t.applyRule trigger target = target := by
  rw [applyRule, h]

theorem retractRule_of_none (h : t.dependents? trigger = none) (target : Registry) :
    t.retractRule trigger target = target := by
  rw [retractRule, h]

theorem Reachable.canonical_dependents (ht : t.Reachable) (h : t.dependents? trigger = some d) :
    d.Canonical :=
  (ht.rules_reachable d (mem_rules_of_dependents? h)).canonical

/-- Whether a rule was applied does not show after it is retracted. -/
theorem retractRule_applyRule (ht : t.Reachable) (htarget : target.Canonical) (trigger : Text) :
    t.retractRule trigger (t.applyRule trigger target) = t.retractRule trigger target := by
  cases hd : t.dependents? trigger with
  | none => rw [applyRule_of_none hd]
  | some d =>
    rw [applyRule_of_some hd, retractRule_of_some hd, retractRule_of_some hd]
    exact htarget.merge_withdraw (ht.canonical_dependents hd)

/-- Retracting a rule once more changes nothing. -/
theorem retractRule_retractRule (ht : t.Reachable) (htarget : target.Canonical)
    (trigger : Text) :
    t.retractRule trigger (t.retractRule trigger target) = t.retractRule trigger target := by
  cases hd : t.dependents? trigger with
  | none => rw [retractRule_of_none hd]
  | some d =>
    rw [retractRule_of_some hd, retractRule_of_some hd]
    exact htarget.withdraw_again (ht.canonical_dependents hd)

theorem canonical_retractRule (htarget : target.Canonical) (trigger : Text) :
    (t.retractRule trigger target).Canonical := by
  cases hd : t.dependents? trigger with
  | none =>
    rw [retractRule_of_none hd]
    exact htarget
  | some d =>
    rw [retractRule_of_some hd]
    exact htarget.withdraw d

/-- The strength of a dependent, and of any other name, after its rule is applied. -/
theorem strengths_applyRule (ht : t.Reachable) (htarget : target.Canonical)
    (hd : t.dependents? trigger = some d) (key : Text) :
    (t.applyRule trigger target).strengths key = (d.strengths key).elim (target.strengths key)
      fun v => some (max ((target.strengths key).getD 0) v) := by
  rw [applyRule_of_some hd, htarget.strengths_merge (ht.canonical_dependents hd),
    StrengthMap.raised_apply]

/-- The strength of a dependent, and of any other name, after its rule is retracted. -/
theorem strengths_retractRule (ht : t.Reachable) (htarget : target.Canonical)
    (hd : t.dependents? trigger = some d) (key : Text) :
    (t.retractRule trigger target).strengths key = (d.strengths key).elim (target.strengths key)
      fun v => some (if v < (target.strengths key).getD 0 then (target.strengths key).getD 0
        else 0) := by
  rw [retractRule_of_some hd, htarget.strengths_withdraw (ht.canonical_dependents hd),
    StrengthMap.cleared_apply]
  simp only [← Nat.not_lt, ite_not]

/-! ### The theorem -/

/-- **What is left of a rule that is applied and retracted.**  Without a rule for the trigger
the target stays as it is.  With one, applying raises every dependent to the claim of the
rule.  After retracting, the names of the target and the dependents are registered; a
dependent has the strength that the target gave it, if that was above the claim, and zero
if not; all other names are as they were.  Applying and retracting the rule again changes
nothing. -/
theorem retract_keeps_stronger_claims (ht : t.Reachable) (htarget : target.Reachable)
    (trigger : Text) :
    (t.dependents? trigger = none →
      t.applyRule trigger target = target ∧ t.retractRule trigger target = target) ∧
    ∀ d, t.dependents? trigger = some d →
      let applied := t.applyRule trigger target
      let retracted := t.retractRule trigger applied
      (∀ key, key ∈ retracted.registered ↔ key ∈ target.registered ∨ key ∈ d.registered) ∧
      (∀ key v, d.strengths key = some v →
        applied.strengths key = some (max ((target.strengths key).getD 0) v) ∧
        retracted.strengths key = some (if v < (target.strengths key).getD 0 then
          (target.strengths key).getD 0 else 0)) ∧
      (∀ key, key ∉ d.registered → applied.strengths key = target.strengths key ∧
        retracted.strengths key = target.strengths key) ∧
      t.retractRule trigger (t.applyRule trigger retracted) = retracted := by
  have hr := htarget.canonical
  refine ⟨fun hnone => ⟨applyRule_of_none hnone target, retractRule_of_none hnone target⟩, ?_⟩
  intro d hd applied retracted
  have hdependents : d.Canonical := ht.canonical_dependents hd
  have hretracted : retracted = t.retractRule trigger target :=
    retractRule_applyRule ht hr trigger
  have happly := strengths_applyRule ht hr hd
  have hretract := strengths_retractRule ht hr hd
  rw [hretracted]
  refine ⟨fun key => ?_, fun key v hv => ⟨?_, ?_⟩, fun key hkey => ⟨?_, ?_⟩, ?_⟩
  · rw [retractRule_of_some hd]
    exact hr.mem_registered_withdraw hdependents key
  · rw [happly, hv, Option.elim_some]
  · rw [hretract, hv, Option.elim_some]
  · rw [happly, hdependents.not_mem_registered_iff.mp hkey, Option.elim_none]
  · rw [hretract, hdependents.not_mem_registered_iff.mp hkey, Option.elim_none]
  · rw [retractRule_applyRule ht (canonical_retractRule hr trigger), retractRule_retractRule ht hr]

/-- A rule edited up and down to zero, and a target that has a dependent above, at and below
its claim, one of them under a trigger in another case; and a trigger without a rule. -/
theorem retract_keeps_stronger_claims_edited :
    let t := (empty.addRule "a b".toList "w x y z".toList).alterDependents
      (fun r => (r.touch (.raise 3) ['y']).touch (.clear 1) ['z']) ['b']
    let target := Registry.ofEntries
      [("w".toList, 2), ("x".toList, 1), ("y".toList, 2), ("v".toList, 5)]
    t.Reachable ∧ target.Reachable ∧
      t.applyRule ['c'] target = target ∧
      (t.applyRule ['A'] target).listing.map Tag.write =
        ["v=5".toList, "w=2".toList, "x=1".toList, "y=3".toList, "z=0".toList] ∧
      (t.retractRule ['A'] (t.applyRule ['A'] target)).strengths ['w'] = some 2 ∧
      (t.retractRule ['A'] (t.applyRule ['A'] target)).strengths ['x'] = some 0 ∧
      (t.retractRule ['A'] (t.applyRule ['A'] target)).strengths ['y'] = some 0 ∧
      (t.retractRule ['A'] (t.applyRule ['A'] target)).strengths ['v'] = some 5 ∧
      ['z'] ∈ (t.retractRule ['A'] (t.applyRule ['A'] target)).registered := by
  intro t target
  have hedit : ∀ r : Registry, r.Reachable →
      ((r.touch (.raise 3) ['y']).touch (.clear 1) ['z']).Reachable := by
    intro r hr
    exact (hr.touch _ _).touch _ _
  have ht : t.Reachable :=
    .alter ['b'] (.addRule "a b".toList "w x y z".toList .empty) hedit
  have htarget : target.Reachable := .build (.entries
    [("w".toList, 2), ("x".toList, 1), ("y".toList, 2), ("v".toList, 5)]) rfl
  obtain ⟨hnone, -⟩ := retract_keeps_stronger_claims ht htarget ['c']
  obtain ⟨-, hbound⟩ := retract_keeps_stronger_claims ht htarget ['A']
  let d := Registry.ofEntries
    [("w".toList, 1), ("x".toList, 1), ("y".toList, 3), ("z".toList, 0)]
  have hd : t.dependents? ['A'] = some d := by decide +kernel
  obtain ⟨hregistered, hclaims, hothers, -⟩ := hbound d hd
  refine ⟨ht, htarget, (hnone (by decide +kernel)).1, by decide +kernel, ?_, ?_, ?_, ?_, ?_⟩
  · exact (hclaims ['w'] 1 (by decide +kernel)).2
  · exact (hclaims ['x'] 1 (by decide +kernel)).2
  · exact (hclaims ['y'] 3 (by decide +kernel)).2
  · exact (hothers ['v'] (by decide +kernel)).2
  · exact (hregistered ['z']).mpr (Or.inr (by decide +kernel))

end RuleTable

end Questionnaire
