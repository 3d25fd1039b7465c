import Mathlib.Algebra.GroupWithZero.Nat
import Mathlib.Data.List.Dedup
import Mathlib.Data.Sum.Basic
import Questionnaire.Proofs.DraftInvariant
import Questionnaire.Report.Summary

/-!
# What is counted in an outline

A summary counts the questions of each kind and the triggers of rules.  Questions are
counted into an index one after the other, so the entry of a kind is the number of its
questions; and the kinds of the questions are those of the keys that ask them, for options
and rules add no question.  The triggers are the words of those rules that are complete and
have a word on both sides, each counted once however often and in whatever case it is
bound.

## Main definitions

* `Index.tally` — how often each name occurs in a list.
* `Question.kind`, `Passage.kinds` — the kinds of questions, and those that keys ask.
* `Script.aliases`, `Script.boundWords` — the complete rules of a script, and the words that
  they bind.

## Main results

* `Index.mem_tally_iff`, `Index.sum_tally` — **what a tally says.**
* `Outline.kinds_run` — a run adds the kinds that its keys ask.
* `Script.length_triggers_rules` — **how many triggers the rules of a script have.**
-/

namespace Questionnaire

open Text

/-! ### Tallies -/

namespace Index

variable {β : Type} {index : Index β}

/-- An index whose names are those of a list has an entry for each different one. -/
theorem Ascending.length_eq (h : index.Ascending) {names : List Text}
    (hmem : ∀ name, name ∈ index.names ↔ name ∈ names) :
    index.length = names.dedup.length := by
  have hnodup : index.names.Nodup := h.imp ne_of_lt
  have hperm : index.names.Perm names.dedup := by
    refine (List.perm_ext_iff_of_nodup hnodup names.nodup_dedup).mpr fun name => ?_
    rw [hmem, List.mem_dedup]
  rw [← hperm.length_eq, Index.names, List.length_map]

/-- How often each name occurs in a list. -/
def tally (names : List Text) : Index Nat :=
  names.foldl (fun counts name => counts.alter name fun n => n.getD 0 + 1) []

theorem tally_concat (names : List Text) (name : Text) :
    tally (names ++ [name]) = (tally names).alter name fun n => n.getD 0 + 1 :=
  List.foldl_concat _ _ _ _

theorem ascending_tally (names : List Text) : (tally names).Ascending := by
  induction names using List.reverseRecOn with
  | nil => exact ascending_nil
  | append_singleton names name ih =>
    rw [tally_concat]
    exact ih.alter _ _

theorem find?_tally (names : List Text) (name : Text) : (tally names).find? name =
    if names.count name = 0 then none else some (names.count name) := by
  induction names using List.reverseRecOn with
  | nil => rfl
  | append_singleton names last ih =>
    rw [tally_concat, (ascending_tally names).find?_alter, List.count_append]
    by_cases hname : name = last
    · -- one more than before, and before it is none if there was no entry
      have hbefore : ((tally names).find? name).getD 0 = names.count name := by
        rw [ih]
        split
        · next hzero => exact hzero.symm
        · rfl
      rw [if_pos hname, ← hname, hbefore, List.count_singleton_self, if_neg (Nat.succ_ne_zero _)]
    · have hother : List.count name [last] = 0 :=
        List.count_eq_zero_of_not_mem fun h => hname (List.mem_singleton.mp h)
      rw [if_neg hname, ih, hother, Nat.add_zero]

/-- **What a tally says:** how often the names of a list occur in it. -/
theorem mem_tally_iff {names : List Text} {name : Text} {n : Nat} :
    (name, n) ∈ tally names ↔ n = names.count name ∧ 0 < n := by
  rw [← (ascending_tally names).find?_eq_some_iff, find?_tally]
  split
  · next hzero =>
    constructor
    · intro h
      cases h
    · rintro ⟨hn, hpos⟩
      exact absurd (hn.trans hzero) hpos.ne'
  · next hcount =>
    rw [Option.some.injEq]
    exact ⟨fun h => ⟨h.symm, h ▸ Nat.pos_of_ne_zero hcount⟩, fun h => h.1.symm⟩

theorem mem_names_tally {names : List Text} {name : Text} :
    name ∈ (tally names).names ↔ name ∈ names := by
  rw [Index.names, List.mem_map, ← List.count_pos_iff (l := names)]
  constructor
  · rintro ⟨⟨_, n⟩, hentry, rfl⟩
    obtain ⟨rfl, hpos⟩ := mem_tally_iff.mp hentry
    exact hpos
  · exact fun hpos => ⟨(name, names.count name), mem_tally_iff.mpr ⟨rfl, hpos⟩, rfl⟩

theorem length_tally (names : List Text) : (tally names).length = names.dedup.length :=
  (ascending_tally names).length_eq fun _ => mem_names_tally

/-- One name more counts one more, whether it has an entry or not. -/
theorem sum_alter (name : Text) (counts : Index Nat) :
    ((counts.alter name fun n => n.getD 0 + 1).map (·.2)).sum = (counts.map (·.2)).sum + 1 := by
  induction counts with
  | nil => rfl
  | cons entry counts ih =>
    obtain ⟨key, n⟩ := entry
    rw [alter_cons]
    split_ifs
    · simp only [List.map_cons, List.sum_cons, Option.getD_some]
      omega
    · simp only [List.map_cons, List.sum_cons, Option.getD_none]
      omega
    · simp only [List.map_cons, List.sum_cons, ih]
      omega

/-- The numbers of a tally make up the length of the list. -/
theorem sum_tally (names : List Text) : ((tally names).map (·.2)).sum = names.length := by
  induction names using List.reverseRecOn with
  | nil => rfl
  | append_singleton names name ih =>
    rw [tally_concat, sum_alter, ih, List.length_append]
    rfl

end Index

/-! ### Kinds of questions -/

/-- The kind of a question. -/
def Question.kind : Question → Prompt ⊕ Choice
  | .prompt kind _ => .inl kind
  | .choice kind _ _ => .inr kind

/-- The kind of question that a key asks. -/
def Mark.asks? : Mark → Option (Prompt ⊕ Choice)
  | .prompt kind => some (.inl kind)
  | .choice kind => some (.inr kind)
  | .optionName => none
  | .optionTag => none
  | .aliasFrom => none
  | .aliasTo => none

/-- The kinds of questions that the keys of a passage ask, in order. -/
def Passage.kinds (w : Passage) : List (Prompt ⊕ Choice) := w.filterMap (·.1.asks?)

/-- The words of questions are those of their kinds. -/
theorem Question.map_kindName (questions : List Question) : questions.map kindName =
    (questions.map kind).map (Sum.elim Prompt.word Choice.word) := by
  rw [List.map_map]
  exact List.map_congr_left fun q _ => by cases q <;> rfl

/-- Different kinds have different words. -/
theorem kindWord_injective : Function.Injective (Sum.elim Prompt.word Choice.word) :=
  Prompt.word_injective.sumElim Choice.word_injective fun a b => by cases a <;> cases b <;> decide

theorem Config.kindCounts_eq (c : Config) :
    c.kindCounts = Index.tally (c.questions.map Question.kindName) := by
  rw [Index.tally, List.foldl_map]
  rfl

/-- There is an entry for each kind that is used. -/
theorem Config.length_kindCounts (c : Config) :
    c.kindCounts.length = (c.questions.map Question.kind).dedup.length := by
  rw [kindCounts_eq, Index.length_tally, Question.map_kindName,
    List.dedup_map_of_injective kindWord_injective, List.length_map]

namespace Outline

variable {o o' : Outline}

/-- Options do not change the kind of a question. -/
theorem kinds_changeOptions {f : List Answer → List Answer} {stage : Stage}
    (h : o.changeOptions f stage = .ok o') :
    o'.questions.map Question.kind = o.questions.map Question.kind := by
  unfold changeOptions at h
  split at h
  · next kind text options hlast =>
    rw [← Except.ok.inj h]
    obtain ⟨before, hbefore⟩ := List.getLast?_eq_some_iff.mp hlast
    rw [hbefore, List.dropLast_concat, List.map_append, List.map_append]
    rfl
  · cases h

/-- A key that fits adds the kind that it asks. -/
theorem kinds_step {mark : Mark} {value : Text} (h : o.step mark value = .ok o') :
    o'.questions.map Question.kind = o.questions.map Question.kind ++ mark.asks?.toList := by
  have hhalf : ∀ side : Side, o.step side.mark value = .ok o' → o'.questions = o.questions := by
    intro side hstep
    rcases half_cases hstep with ⟨-, rfl⟩ | ⟨_, -, rfl⟩ | ⟨_, -, rfl⟩ <;> rfl
  cases mark with
  | prompt kind =>
    obtain ⟨-, rfl⟩ := ready_of_ask h
    exact List.map_append
  | choice kind =>
    obtain ⟨-, rfl⟩ := ready_of_ask h
    exact List.map_append
  | optionName =>
    rw [step, addLabel] at h
    split at h
    · rw [kinds_changeOptions h, Mark.asks?, Option.toList_none, List.append_nil]
    · cases h
  | optionTag =>
    rw [step, addTag] at h
    split_ifs at h
    · rw [kinds_changeOptions h, Mark.asks?, Option.toList_none, List.append_nil]
    · rw [kinds_changeOptions h, Mark.asks?, Option.toList_none, List.append_nil]
  | aliasFrom => rw [hhalf .triggers h, Mark.asks?, Option.toList_none, List.append_nil]
  | aliasTo => rw [hhalf .dependents h, Mark.asks?, Option.toList_none, List.append_nil]

/-- **A run adds the kinds that its keys ask.** -/
theorem kinds_run {w : Passage} (h : run w o = .ok o') :
    o'.questions.map Question.kind = o.questions.map Question.kind ++ w.kinds := by
  unfold Passage.kinds
  induction w generalizing o with
  | nil =>
    cases h
    exact (List.append_nil _).symm
  | cons key w ih =>
    obtain ⟨m, hstep, hrest⟩ := Except.foldlM_cons_eq_ok.mp h
    rw [ih hrest, kinds_step hstep, List.append_assoc, List.filterMap_cons]
    cases key.1.asks? <;> rfl

end Outline

/-! ### Triggers -/

namespace RuleTable

theorem mem_names_bindEach {number : Nat} {names : List Text} {index : Index Nat} {key : Text} :
    key ∈ (bindEach number names index).names ↔
      (∃ name ∈ names, lowercase name = key) ∨ key ∈ index.names := by
  induction names generalizing index with
  | nil => simp [bindEach]
  | cons name names ih =>
    have hstep : bindEach number (name :: names) index =
        bindEach number names (index.alter (lowercase name) fun _ => number) := rfl
    rw [hstep, ih, Index.mem_names_alter, List.exists_mem_cons_iff, or_assoc, or_left_comm,
      eq_comm (a := key)]

/-- Two lists with a word in both bind the words of the first, and no others are bound. -/
theorem mem_names_addRule {t : RuleTable} {triggers dependents key : Text} :
    key ∈ (t.addRule triggers dependents).triggers.names ↔
      (words dependents ≠ [] ∧ ∃ word ∈ words triggers, lowercase word = key) ∨
        key ∈ t.triggers.names := by
  cases heffective : (RuleAction.addRule triggers dependents).effective with
  | true =>
    rw [addRule_of_effective heffective, mem_names_bindEach]
    simp only [RuleAction.effective, Bool.and_eq_true, Bool.not_eq_true',
      List.isEmpty_eq_false_iff] at heffective
    simp only [heffective.2, true_and, ne_eq, not_false_eq_true]
  | false =>
    rw [addRule_of_not_effective heffective]
    simp only [RuleAction.effective, Bool.and_eq_false_iff, Bool.not_eq_false',
      List.isEmpty_iff] at heffective
    rcases heffective with hnone | hnone <;> simp [hnone]

end RuleTable

/-- The triggers and the dependents of a rule. -/
def Piece.alias? : Piece → Option (Text × Text)
  | .prompt _ _ => none
  | .rule .triggers _ first second => some (first, second)
  | .rule .dependents _ first second => some (second, first)
  | .choice _ _ _ _ => none

namespace Script

/-- The triggers and the dependents of the rules that are complete. -/
def aliases (s : Script) : List (Text × Text) := s.pieces.filterMap Piece.alias?

/-- The words, in lowercase, that are bound by rules with a word on both sides. -/
def boundWords (s : Script) : List Text :=
  (s.aliases.filter fun a => words a.1 ≠ [] ∧ words a.2 ≠ []).flatMap
    fun a => (words a.1).map lowercase

theorem mem_boundWords {s : Script} {key : Text} : key ∈ s.boundWords ↔
    ∃ a ∈ s.aliases, words a.2 ≠ [] ∧ ∃ word ∈ words a.1, lowercase word = key := by
  simp only [boundWords, List.mem_flatMap, List.mem_filter, decide_eq_true_eq, List.mem_map]
  constructor
  · rintro ⟨a, ⟨ha, -, hdependents⟩, hword⟩
    exact ⟨a, ha, hdependents, hword⟩
  · rintro ⟨a, ha, hdependents, word, hword, hkey⟩
    exact ⟨a, ⟨ha, List.ne_nil_of_mem hword, hdependents⟩, word, hword, hkey⟩

/-- Pieces add the rules that are among them. -/
theorem foldl_addTo (pieces : List Piece) (t : RuleTable) : pieces.foldl Piece.addTo t =
    (pieces.filterMap Piece.alias?).foldl (fun t a => t.addRule a.1 a.2) t := by
  induction pieces generalizing t with
  | nil => rfl
  | cons p pieces ih =>
    rw [List.foldl_cons, ih]
    cases p with
    | prompt kind text => rfl
    | rule side earlier first second => cases side <;> rfl
    | choice kind text groups last => rfl

theorem mem_names_foldl_addRule {aliases : List (Text × Text)} {t : RuleTable} {key : Text} :
    key ∈ (aliases.foldl (fun t a => t.addRule a.1 a.2) t).triggers.names ↔
      (∃ a ∈ aliases, words a.2 ≠ [] ∧ ∃ word ∈ words a.1, lowercase word = key) ∨
        key ∈ t.triggers.names := by
  induction aliases generalizing t with
  | nil => simp
  | cons a aliases ih =>
    rw [List.foldl_cons, ih, RuleTable.mem_names_addRule, List.exists_mem_cons_iff, or_assoc,
      or_left_comm]

/-- The triggers of the rules of a script are the words that it binds. -/
theorem mem_names_rules {s : Script} {key : Text} :
    key ∈ s.rules.triggers.names ↔ key ∈ s.boundWords := by
  rw [rules, foldl_addTo, mem_names_foldl_addRule, mem_boundWords]
  exact or_iff_left List.not_mem_nil

/-- **How many triggers the rules of a script have:** as many as it binds words. -/
theorem length_triggers_rules {s : Script} (h : s.rules.triggers.Ascending) :
    s.rules.triggers.length = s.boundWords.dedup.length :=
  h.length_eq fun _ => mem_names_rules

end Script

end Questionnaire
