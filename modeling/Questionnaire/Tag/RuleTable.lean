import Questionnaire.Tag.Registry

/-!
# Rules for dependent tags

A rule gives a registry of dependent tags to its trigger names.  The triggers of
one rule share that registry: an edit made through one of them is seen through
the others.  Binding a trigger anew only changes which rule it points to; the
rule it had before stays as it is for its other triggers.

## Main definitions

* `RuleTable` — the registries in order of their rules, and for each trigger the
  number of its rule.
* `RuleTable.addRule triggers dependents` — binds a list of triggers to one new
  registry.
* `RuleTable.dependents?`, `RuleTable.alterDependents` — the registry behind a
  trigger.
* `RuleTable.applyRule`, `RuleTable.retractRule`, `RuleTable.applyInitial` — a
  rule carried out on a registry.
-/

namespace Questionnaire

open Text

/-- Registries of dependent tags, and the triggers bound to them. -/
structure RuleTable where
  /-- The dependents of each rule, in the order the rules were added. -/
  rules : List Registry
  /-- The number of the rule under each lowercase trigger. -/
  triggers : Index Nat
  deriving DecidableEq, Repr

namespace RuleTable

/-- The table without rules. -/
def empty : RuleTable := ⟨[], []⟩

instance : Inhabited RuleTable := ⟨empty⟩

/-- The strength that a rule gives to its dependents. -/
def ruleStrength : Strength := 1

/-- Binds names to the rule of a number, one after the other. -/
def bindEach (number : Nat) (names : List Text) (triggers : Index Nat) : Index Nat :=
  names.foldl (fun index name => index.alter (lowercase name) fun _ => number) triggers

/-- Binds every word of the first list to one registry of the words of the
second.  Without a word in both there is no rule. -/
def addRule (triggers dependents : Text) (t : RuleTable) : RuleTable :=
  let registry := Registry.ofWords dependents ruleStrength
  if registry.tags.isEmpty || (words triggers).isEmpty then t
  else ⟨t.rules ++ [registry], bindEach t.rules.length (words triggers) t.triggers⟩

/-- The number of the rule that a trigger is bound to. -/
def ruleOf? (t : RuleTable) (trigger : Text) : Option Nat :=
  t.triggers.find? (lowercase trigger)

/-- The registry that a trigger is bound to. -/
def dependents? (t : RuleTable) (trigger : Text) : Option Registry :=
  (t.ruleOf? trigger).bind (t.rules[·]?)

/-- Changes the registry that a trigger is bound to, for all triggers of its rule.
Without a rule the table stays as it is. -/
def alterDependents (f : Registry → Registry) (trigger : Text) (t : RuleTable) : RuleTable :=
  match t.ruleOf? trigger with
  | none => t
  | some number => { t with rules := t.rules.modify number f }

/-- Edits the registry that a trigger is bound to. -/
def editDependents (edit : Edit) (trigger : Text) (t : RuleTable) : RuleTable :=
  t.alterDependents edit.apply trigger

/-- Both names are bound, and to one rule. -/
def sharesRule (t : RuleTable) (a b : Text) : Bool :=
  match t.ruleOf? a, t.ruleOf? b with
  | some m, some n => m == n
  | _, _ => false

/-! ### Carrying out rules -/

/-- The target with the dependents of a trigger merged into it. -/
def applyRule (t : RuleTable) (trigger : Text) (target : Registry) : Registry :=
  match t.dependents? trigger with
  | none => target
  | some registry => target.merge registry

/-- The target with the dependents of a trigger withdrawn from it. -/
def retractRule (t : RuleTable) (trigger : Text) (target : Registry) : Registry :=
  match t.dependents? trigger with
  | none => target
  | some registry => target.withdraw registry

/-- The target with the rule of every name applied whose flag is exactly one. -/
def applyInitial (t : RuleTable) (flags : List (Text × Strength)) (target : Registry) :
    Registry :=
  flags.foldl (fun target flag => if flag.2 = 1 then t.applyRule flag.1 target else target)
    target

/-! ### Listing -/

/-- The triggers in ascending order, each with its registry. -/
def bindings (t : RuleTable) : List (Text × Registry) :=
  t.triggers.map fun (trigger, number) => (trigger, (t.rules[number]?).getD .empty)

end RuleTable

end Questionnaire
