import Mathlib.Data.List.Induction
import Questionnaire.Proofs.RegistryRuns
import Questionnaire.Tag.RuleTable

/-!
# Shared registries

The triggers of a rule share one registry, as though it were a mutable cell.  What
a trigger sees is told by the history of the table: the last call that bound it,
and the edits made since through any trigger that was bound to the same call at
the time.  The proof goes through the numbers of the rules: each stands for one
call of the history, also when no trigger is bound to it any more.

## Main definitions

* `RuleAction`, `RuleTable.act`, `RuleTable.after` — what is done to a table, and the table
  behind a history.
* `RuleHistory.lastBinding?` — the last call that bound a trigger.
* `RuleHistory.registry` — the registry of a call after the edits made to it.
* `RuleTable.Recounts` — the rules of a table are calls of the history.

## Main results

* `RuleTable.Recounts.act` — an action keeps the account.
* `RuleTable.exists_recounts_after` — every run keeps the account.
* `RuleTable.after_shares_registries` — **what the triggers of a table see.**
-/

namespace Questionnaire

open Text

/-! ### Histories -/

/-- What is done to a rule table. -/
inductive RuleAction where
  /-- A rule is added. -/
  | addRule (triggers dependents : Text)
  /-- The registry behind a trigger is edited in any way. -/
  | alter (trigger : Text) (f : Registry → Registry)

namespace RuleAction

/-- A call that adds a rule has a word in both of its lists. -/
def effective : RuleAction → Bool
  | .addRule triggers dependents => !(words triggers).isEmpty && !(words dependents).isEmpty
  | .alter _ _ => false

/-- An effective call binds the words of its first list, whatever their case. -/
def binds (name : Text) : RuleAction → Bool
  | .addRule triggers dependents =>
    (addRule triggers dependents).effective &&
      (words triggers).any fun word => lowercase word == lowercase name
  | .alter _ _ => false

/-- The registry that a call begins with. -/
def registry : RuleAction → Registry
  | .addRule _ dependents => .ofWords dependents RuleTable.ruleStrength
  | .alter _ _ => .empty

end RuleAction

/-- Actions in the order in which they are done. -/
abbrev RuleHistory := List RuleAction

namespace RuleHistory

/-- The number of the last action that bound a name. -/
def lastBinding? (h : RuleHistory) (name : Text) : Option Nat :=
  (h.zipIdx.reverse.find? fun entry => entry.1.binds name).map (·.2)

/-- The edit that the action of a number makes to the registry of a call, if its trigger
was bound to that call at the time. -/
def editOf? (h : RuleHistory) (call number : Nat) : RuleAction → Option (Registry → Registry)
  | .addRule _ _ => none
  | .alter trigger f => if lastBinding? (h.take number) trigger = some call then some f else none

/-- The edits made to the registry of a call, in order. -/
def edits (h : RuleHistory) (call : Nat) : List (Registry → Registry) :=
  h.zipIdx.filterMap fun entry => editOf? h call entry.2 entry.1

/-- The registry of a call after the edits made to it. -/
def registry (h : RuleHistory) (call : Nat) : Registry :=
  (edits h call).foldl (fun r f => f r) ((h[call]?).elim .empty RuleAction.registry)

/-! ### Histories with one more action -/

variable (h : RuleHistory)

theorem lastBinding?_concat (a : RuleAction) (name : Text) :
    lastBinding? (h ++ [a]) name = if a.binds name then some h.length else lastBinding? h name := by
  unfold lastBinding?
  rw [List.zipIdx_append, List.reverse_append, List.zipIdx_singleton, Nat.zero_add,
    List.reverse_singleton, List.singleton_append, List.find?_cons]
  cases a.binds name <;> rfl

theorem isSome_lastBinding?_iff (name : Text) :
    (lastBinding? h name).isSome ↔ ∃ a ∈ h, a.binds name = true := by
  rw [lastBinding?, Option.isSome_map, List.find?_isSome]
  constructor
  · rintro ⟨entry, hmem, hbinds⟩
    have hentry := List.mem_zipIdx_iff_getElem?.mp (List.mem_reverse.mp hmem)
    exact ⟨entry.1, List.mem_of_getElem? hentry, hbinds⟩
  · rintro ⟨a, hmem, hbinds⟩
    obtain ⟨number, hnumber⟩ := List.mem_iff_getElem?.mp hmem
    have hentry : (a, number) ∈ h.zipIdx := List.mem_zipIdx_iff_getElem?.mpr hnumber
    exact ⟨(a, number), List.mem_reverse.mpr hentry, hbinds⟩

theorem exists_addRule_of_lastBinding? {h : RuleHistory} {name : Text} {call : Nat}
    (hlast : lastBinding? h name = some call) :
    ∃ triggers dependents, h[call]? = some (.addRule triggers dependents) := by
  obtain ⟨⟨a, number⟩, hfind, rfl⟩ := Option.map_eq_some_iff.mp hlast
  have hmem := List.mem_reverse.mp (List.mem_of_find?_eq_some hfind)
  have hentry : h[number]? = some a := List.mem_zipIdx_iff_getElem?.mp hmem
  have hbinds : a.binds name = true := by simpa using List.find?_some hfind
  cases a with
  | addRule triggers dependents => exact ⟨triggers, dependents, hentry⟩
  | alter trigger f => cases hbinds

theorem lt_of_lastBinding? {h : RuleHistory} {name : Text} {call : Nat}
    (hlast : lastBinding? h name = some call) : call < h.length := by
  obtain ⟨triggers, dependents, hcall⟩ := exists_addRule_of_lastBinding? hlast
  exact (List.getElem?_eq_some_iff.mp hcall).1

theorem edits_concat (a : RuleAction) (call : Nat) :
    edits (h ++ [a]) call = edits h call ++ (editOf? h call h.length a).toList := by
  -- what an action saw of the history does not change with what comes after it
  have htake : ∀ number ≤ h.length, ∀ b,
      editOf? (h ++ [a]) call number b = editOf? h call number b := by
    intro number hnumber b
    cases b with
    | addRule triggers dependents => rfl
    | alter trigger f => rw [editOf?, editOf?, List.take_append_of_le_length hnumber]
  have hold : h.zipIdx.filterMap (fun entry => editOf? (h ++ [a]) call entry.2 entry.1) =
      edits h call := by
    refine List.filterMap_congr fun entry hentry => htake entry.2 ?_ entry.1
    exact (List.getElem?_eq_some_iff.mp (List.mem_zipIdx_iff_getElem?.mp hentry)).1.le
  rw [edits, List.zipIdx_append, List.filterMap_append, hold, List.zipIdx_singleton,
    Nat.zero_add, List.filterMap_cons, List.filterMap_nil, htake h.length le_rfl]
  cases editOf? h call h.length a <;> rfl

/-- A call has no edits before it. -/
theorem edits_of_length_le {h : RuleHistory} {call : Nat} (hcall : h.length ≤ call) :
    edits h call = [] := by
  refine List.filterMap_eq_nil_iff.mpr fun entry _ => ?_
  obtain ⟨a, number⟩ := entry
  cases a with
  | addRule triggers dependents => rfl
  | alter trigger f =>
    refine if_neg fun hlast => ?_
    have hlt : call < (h.take number).length := lt_of_lastBinding? hlast
    exact absurd (hlt.trans_le ((List.length_take_le' number h).trans hcall)) (lt_irrefl call)

/-- A further call leaves the registries of other calls alone. -/
theorem registry_concat_addRule (triggers dependents : Text) {call : Nat}
    (hcall : call < h.length) :
    registry (h ++ [.addRule triggers dependents]) call = registry h call := by
  rw [registry, edits_concat, List.getElem?_append_left hcall, editOf?, Option.toList_none,
    List.append_nil]
  rfl

/-- An edit changes the registry that its trigger is bound to. -/
theorem registry_concat_alter (trigger : Text) (f : Registry → Registry) {call : Nat}
    (hcall : call < h.length) :
    registry (h ++ [.alter trigger f]) call =
      if lastBinding? h trigger = some call then f (registry h call) else registry h call := by
  rw [registry, edits_concat, List.getElem?_append_left hcall, editOf?, List.take_length]
  split
  · rw [Option.toList_some, List.foldl_append]
    rfl
  · rw [Option.toList_none, List.append_nil]
    rfl

theorem registry_concat_self (triggers dependents : Text) :
    registry (h ++ [.addRule triggers dependents]) h.length =
      .ofWords dependents RuleTable.ruleStrength := by
  rw [registry, edits_concat, edits_of_length_le le_rfl, editOf?, List.getElem?_append_right le_rfl,
    Nat.sub_self]
  rfl

end RuleHistory

/-! ### Adding a rule -/

/-- A list without words gives no tags, and no other list does. -/
theorem Registry.tags_ofWords_eq_nil_iff (list : Text) (strength : Strength) :
    (ofWords list strength).tags = [] ↔ words list = [] := by
  have hraised := Construction.eq_touchAll_of_build? (c := .words list strength) rfl
  constructor
  · intro hnil
    by_contra hwords
    obtain ⟨word, hword⟩ := List.exists_mem_of_ne_nil _ hwords
    have hmem : lowercase word ∈ (ofWords list strength).tags.names := by
      rw [hraised, mem_names_touchAll]
      refine Or.inr ⟨word, ?_, ne_nil_of_mem_words hword, rfl⟩
      simpa [Construction.raised] using hword
    rw [hnil] at hmem
    exact List.not_mem_nil hmem
  · intro hwords
    rw [ofWords, touchWords, hwords]
    rfl

namespace RuleTable

theorem ascending_bindEach {index : Index Nat} (hindex : index.Ascending) (number : Nat)
    (names : List Text) : (bindEach number names index).Ascending := by
  induction names generalizing index with
  | nil => exact hindex
  | cons name names ih => exact ih (hindex.alter _ _)

/-- Names that are bound are found under their lowercase forms. -/
theorem find?_bindEach {index : Index Nat} (hindex : index.Ascending) (number : Nat)
    (names : List Text) (key : Text) : (bindEach number names index).find? key =
      if names.any (fun name => lowercase name == key) then some number
      else index.find? key := by
  induction names generalizing index with
  | nil => rfl
  | cons name names ih =>
    have hstep : bindEach number (name :: names) index =
        bindEach number names (index.alter (lowercase name) fun _ => number) := rfl
    rw [hstep, ih (hindex.alter _ _), hindex.find?_alter, List.any_cons]
    by_cases hkey : key = lowercase name
    · simp [hkey]
    · have hne : (lowercase name == key) = false := by
        rw [beq_eq_false_iff_ne]
        exact Ne.symm hkey
      rw [hne, Bool.false_or, if_neg hkey]

theorem addRule_of_effective {triggers dependents : Text}
    (h : (RuleAction.addRule triggers dependents).effective = true) (t : RuleTable) :
    t.addRule triggers dependents =
      ⟨t.rules ++ [.ofWords dependents ruleStrength],
        bindEach t.rules.length (words triggers) t.triggers⟩ := by
  simp only [RuleAction.effective, Bool.and_eq_true, Bool.not_eq_true', List.isEmpty_eq_false_iff]
    at h
  unfold addRule
  rw [if_neg]
  simp [Registry.tags_ofWords_eq_nil_iff, h.1, h.2]

theorem addRule_of_not_effective {triggers dependents : Text}
    (h : (RuleAction.addRule triggers dependents).effective = false) (t : RuleTable) :
    t.addRule triggers dependents = t := by
  simp only [RuleAction.effective, Bool.and_eq_false_iff, Bool.not_eq_false',
    List.isEmpty_iff] at h
  unfold addRule
  rw [if_pos]
  simp only [Bool.or_eq_true, List.isEmpty_iff, Registry.tags_ofWords_eq_nil_iff]
  exact h.symm

/-! ### The account of a table -/

/-- The table after an action. -/
def act (t : RuleTable) : RuleAction → RuleTable
  | .addRule triggers dependents => t.addRule triggers dependents
  | .alter trigger f => t.alterDependents f trigger

/-- The table behind a history. -/
def after (h : RuleHistory) : RuleTable := h.foldl act .empty

/-- The rules of a table are calls of the history: the registry of each rule is that of its
call, and each trigger is bound to the rule of the last call that bound it. -/
structure Recounts (h : RuleHistory) (calls : List Nat) (t : RuleTable) : Prop where
  /-- The triggers are in order. -/
  ascending : t.triggers.Ascending
  /-- Each rule has the registry of its call. -/
  rules_eq : t.rules = calls.map h.registry
  /-- No call has two rules. -/
  nodup : calls.Nodup
  /-- The calls are in the history. -/
  lt : ∀ call ∈ calls, call < h.length
  /-- A trigger is bound to a rule that there is. -/
  number_lt : ∀ entry ∈ t.triggers, entry.2 < calls.length
  /-- That rule is the one of the last call that bound the trigger. -/
  bound : ∀ name, h.lastBinding? name = (t.ruleOf? name).bind (calls[·]?)

namespace Recounts

variable {h : RuleHistory} {calls : List Nat} {t : RuleTable}

theorem empty : Recounts [] [] .empty where
  ascending := Index.ascending_nil
  rules_eq := rfl
  nodup := List.nodup_nil
  lt := fun _ hcall => absurd hcall List.not_mem_nil
  number_lt := fun _ hentry => absurd hentry List.not_mem_nil
  bound := fun _ => rfl

theorem length_rules (ht : Recounts h calls t) : t.rules.length = calls.length := by
  rw [ht.rules_eq, List.length_map]

theorem ruleOf_lt (ht : Recounts h calls t) {name : Text} {number : Nat}
    (hrule : t.ruleOf? name = some number) : number < calls.length :=
  ht.number_lt _ (Index.mem_of_find? hrule)

theorem lt_concat (ht : Recounts h calls t) (a : RuleAction) :
    ∀ call ∈ calls, call < (h ++ [a]).length := by
  intro call hcall
  rw [List.length_append]
  exact (ht.lt call hcall).trans_le (Nat.le_add_right _ _)

theorem rules_eq_concat (ht : Recounts h calls t) (triggers dependents : Text) :
    t.rules = calls.map (RuleHistory.registry (h ++ [.addRule triggers dependents])) := by
  rw [ht.rules_eq]
  exact List.map_congr_left fun call hcall =>
    (h.registry_concat_addRule triggers dependents (ht.lt call hcall)).symm

theorem addRule_of_not_effective (ht : Recounts h calls t) {triggers dependents : Text}
    (ha : (RuleAction.addRule triggers dependents).effective = false) :
    Recounts (h ++ [.addRule triggers dependents]) calls (t.addRule triggers dependents) := by
  rw [RuleTable.addRule_of_not_effective ha]
  refine ⟨ht.ascending, ht.rules_eq_concat _ _, ht.nodup, ht.lt_concat _, ht.number_lt, ?_⟩
  intro name
  rw [h.lastBinding?_concat, RuleAction.binds, ha]
  exact ht.bound name

/-- An effective call opens a rule of its own. -/
theorem addRule_of_effective (ht : Recounts h calls t) {triggers dependents : Text}
    (ha : (RuleAction.addRule triggers dependents).effective = true) :
    Recounts (h ++ [.addRule triggers dependents]) (calls ++ [h.length])
      (t.addRule triggers dependents) := by
  have hrule : ∀ name, (t.addRule triggers dependents).ruleOf? name =
      if (RuleAction.addRule triggers dependents).binds name then some calls.length
      else t.ruleOf? name := by
    intro name
    rw [RuleTable.addRule_of_effective ha, ruleOf?, find?_bindEach ht.ascending, ht.length_rules,
      RuleAction.binds, ha, Bool.true_and]
    rfl
  have hascending : (t.addRule triggers dependents).triggers.Ascending := by
    rw [RuleTable.addRule_of_effective ha]
    exact ascending_bindEach ht.ascending _ _
  have hentries : ∀ entry ∈ (t.addRule triggers dependents).triggers,
      entry.2 = calls.length ∨ entry ∈ t.triggers := by
    intro entry hentry
    have hfind := hascending.find?_eq_some_iff.mpr hentry
    rw [RuleTable.addRule_of_effective ha, find?_bindEach ht.ascending, ht.length_rules] at hfind
    split at hfind
    · exact Or.inl (Option.some.inj hfind).symm
    · exact Or.inr (Index.mem_of_find? hfind)
  -- the new rule has the next number, and its call the next number in the history
  refine ⟨hascending, ?_, ?_, ?_, ?_, ?_⟩
  · rw [RuleTable.addRule_of_effective ha, List.map_append, ← ht.rules_eq_concat,
      List.map_singleton, h.registry_concat_self]
  · refine List.nodup_append.mpr ⟨ht.nodup, List.pairwise_singleton _ _, ?_⟩
    intro call hcall other hother
    rw [List.mem_singleton.mp hother]
    exact (ht.lt call hcall).ne
  · intro call hcall
    rcases List.mem_append.mp hcall with hcall | hcall
    · exact ht.lt_concat _ call hcall
    · rw [List.mem_singleton.mp hcall, List.length_append]
      exact Nat.lt_succ_self _
  · rw [List.length_append]
    intro entry hentry
    rcases hentries entry hentry with hnew | hold
    · rw [hnew]
      exact Nat.lt_succ_self _
    · exact (ht.number_lt entry hold).trans_le (Nat.le_add_right _ _)
  · intro name
    rw [h.lastBinding?_concat, hrule]
    split
    · rw [Option.bind_some, List.getElem?_append_right le_rfl, Nat.sub_self]
      rfl
    · -- the rules that were there keep their numbers
      rw [ht.bound]
      cases hold : t.ruleOf? name with
      | none => rfl
      | some number => exact (List.getElem?_append_left (ht.ruleOf_lt hold)).symm

/-- An edit changes the registry of the call that its trigger is bound to. -/
theorem alter (ht : Recounts h calls t) (trigger : Text) (f : Registry → Registry) :
    Recounts (h ++ [.alter trigger f]) calls (t.alterDependents f trigger) := by
  have hlast : ∀ name, RuleHistory.lastBinding? (h ++ [.alter trigger f]) name =
      h.lastBinding? name := h.lastBinding?_concat (.alter trigger f)
  have htrigger := ht.bound trigger
  unfold alterDependents
  cases hrule : t.ruleOf? trigger with
  | none =>
    -- no call bound the trigger, so no call has an edit more
    rw [hrule, Option.bind_none] at htrigger
    refine ⟨ht.ascending, ?_, ht.nodup, ht.lt_concat _, ht.number_lt, fun name => ?_⟩
    · rw [ht.rules_eq]
      refine List.map_congr_left fun call hcall => ?_
      rw [h.registry_concat_alter trigger f (ht.lt call hcall), htrigger, if_neg (by simp)]
    · rw [hlast]
      exact ht.bound name
  | some number =>
    rw [hrule, Option.bind_some] at htrigger
    refine ⟨ht.ascending, ?_, ht.nodup, ht.lt_concat _, ht.number_lt, fun name => ?_⟩
    · apply List.ext_getElem?
      intro i
      rw [List.getElem?_modify, ht.rules_eq, List.getElem?_map, List.getElem?_map]
      cases hcall : calls[i]? with
      | none => rfl
      | some call =>
        have hlt := ht.lt call (List.mem_of_getElem? hcall)
        -- the trigger is bound to this call exactly if it is bound to this rule
        have hsame : number = i ↔ h.lastBinding? trigger = some call := by
          rw [htrigger]
          constructor
          · rintro rfl
            exact hcall
          · intro hnumber
            exact (List.getElem?_inj (ht.ruleOf_lt hrule) ht.nodup).mp (hnumber.trans hcall.symm)
        simp only [Option.map_some, Option.map_eq_map, h.registry_concat_alter trigger f hlt, hsame]
    · rw [hlast]
      exact ht.bound name

/-- **An action keeps the account.** -/
theorem act (ht : Recounts h calls t) (a : RuleAction) :
    ∃ calls', Recounts (h ++ [a]) calls' (t.act a) := by
  cases a with
  | addRule triggers dependents =>
    cases ha : (RuleAction.addRule triggers dependents).effective with
    | true => exact ⟨_, ht.addRule_of_effective ha⟩
    | false => exact ⟨_, ht.addRule_of_not_effective ha⟩
  | alter trigger f => exact ⟨_, ht.alter trigger f⟩

end Recounts

theorem after_concat (h : RuleHistory) (a : RuleAction) : after (h ++ [a]) = (after h).act a := by
  rw [after, List.foldl_append]
  rfl

/-- **Every run keeps the account.** -/
theorem exists_recounts_after (h : RuleHistory) : ∃ calls, Recounts h calls (after h) := by
  induction h using List.reverseRecOn with
  | nil => exact ⟨[], Recounts.empty⟩
  | append_singleton h a ih =>
    obtain ⟨calls, ht⟩ := ih
    rw [after_concat]
    exact ht.act a

/-! ### What triggers see -/

/-- A trigger sees the registry of the last call that bound it. -/
theorem dependents?_after (h : RuleHistory) (name : Text) :
    (after h).dependents? name = (h.lastBinding? name).map h.registry := by
  obtain ⟨calls, ht⟩ := exists_recounts_after h
  rw [dependents?, ht.bound, ht.rules_eq]
  cases (after h).ruleOf? name with
  | none => rfl
  | some number => exact List.getElem?_map

/-- Triggers share a rule if they were bound last by the same call. -/
theorem sharesRule_after (h : RuleHistory) (a b : Text) :
    (after h).sharesRule a b = true ↔
      ∃ call, h.lastBinding? a = some call ∧ h.lastBinding? b = some call := by
  obtain ⟨calls, ht⟩ := exists_recounts_after h
  rw [ht.bound a, ht.bound b, sharesRule]
  cases ha : (after h).ruleOf? a with
  | none => simp
  | some m =>
    cases hb : (after h).ruleOf? b with
    | none => simp
    | some n =>
      simp only [beq_iff_eq, Option.bind_some]
      constructor
      · rintro rfl
        have hcall := List.getElem?_eq_getElem (ht.ruleOf_lt ha)
        exact ⟨_, hcall, hcall⟩
      · rintro ⟨call, hm, hn⟩
        exact (List.getElem?_inj (ht.ruleOf_lt ha) ht.nodup).mp (hm.trans hn.symm)

/-- **What the triggers of a table see,** whatever was done to it.  A trigger has a registry if
an effective call bound it; it is that of the last such call, with the edits made since
through triggers that were bound to that call at the time.  Triggers share a rule if
their last calls are the same, and then, and only then, the one sees the edits made
through the other.  A call leaves alone what other triggers see, and the numbers of
rules are those of registries. -/
theorem after_shares_registries (h : RuleHistory) :
    (∀ name, ((after h).dependents? name).isSome ↔ ∃ a ∈ h, a.binds name = true) ∧
    (∀ name registry, (after h).dependents? name = some registry ↔
      ∃ call triggers dependents, h.lastBinding? name = some call ∧
        h[call]? = some (.addRule triggers dependents) ∧
        registry = (h.edits call).foldl (fun r f => f r) (.ofWords dependents 1)) ∧
    (∀ a b, (after h).sharesRule a b = true ↔
      ∃ call, h.lastBinding? a = some call ∧ h.lastBinding? b = some call) ∧
    (∀ trigger f name, (after (h ++ [.alter trigger f])).dependents? name =
      if (after h).sharesRule trigger name then ((after h).dependents? name).map f
      else (after h).dependents? name) ∧
    (∀ triggers dependents name, (RuleAction.addRule triggers dependents).binds name = false →
      (after (h ++ [.addRule triggers dependents])).dependents? name =
        (after h).dependents? name) ∧
    ∀ entry ∈ (after h).triggers, entry.2 < (after h).rules.length := by
  refine ⟨?_, ?_, sharesRule_after h, ?_, ?_, ?_⟩
  · intro name
    rw [dependents?_after, Option.isSome_map]
    exact h.isSome_lastBinding?_iff name
  · intro name registry
    rw [dependents?_after, Option.map_eq_some_iff]
    constructor
    · rintro ⟨call, hlast, rfl⟩
      obtain ⟨triggers, dependents, hcall⟩ := RuleHistory.exists_addRule_of_lastBinding? hlast
      exact ⟨call, triggers, dependents, hlast, hcall, by rw [RuleHistory.registry, hcall]; rfl⟩
    · rintro ⟨call, triggers, dependents, hlast, hcall, rfl⟩
      exact ⟨call, hlast, by rw [RuleHistory.registry, hcall]; rfl⟩
  · intro trigger f name
    rw [dependents?_after, dependents?_after, h.lastBinding?_concat, RuleAction.binds]
    cases hlast : h.lastBinding? name with
    | none => simp
    | some call =>
      have hshare := sharesRule_after h trigger name
      simp only [hlast, Option.some.injEq, exists_eq_right'] at hshare
      simp only [Bool.false_eq_true, if_false, Option.map_some, hshare,
        h.registry_concat_alter trigger f (RuleHistory.lt_of_lastBinding? hlast)]
      split <;> rfl
  · intro triggers dependents name hbinds
    rw [dependents?_after, dependents?_after, h.lastBinding?_concat, hbinds]
    cases hlast : h.lastBinding? name with
    | none => rfl
    | some call =>
      simp only [Bool.false_eq_true, if_false, Option.map_some,
        h.registry_concat_addRule triggers dependents (RuleHistory.lt_of_lastBinding? hlast)]
  · obtain ⟨calls, ht⟩ := exists_recounts_after h
    rw [ht.length_rules]
    exact ht.number_lt

/-- Two triggers of one rule, an edit through the one, and a call that binds it anew: the
other still sees the edit. -/
theorem after_shares_registries_rebound :
    let h : RuleHistory :=
      [.addRule "a B".toList ['x'], .alter ['A'] (·.touch (.raise 2) ['z'])]
    (RuleAction.addRule ['a'] ['w']).binds ['b'] = false ∧
      (after (h ++ [.addRule ['a'] ['w']])).dependents? ['b'] =
        some ((Registry.ofWords ['x'] 1).touch (.raise 2) ['z']) := by
  intro h
  obtain ⟨-, hsees, -, -, hother, -⟩ := after_shares_registries h
  have hbinds : (RuleAction.addRule ['a'] ['w']).binds ['b'] = false := by decide +kernel
  refine ⟨hbinds, ?_⟩
  rw [hother _ _ _ hbinds]
  exact (hsees _ _).mpr ⟨0, "a B".toList, ['x'], by decide +kernel, rfl, by decide +kernel⟩

end RuleTable

end Questionnaire
