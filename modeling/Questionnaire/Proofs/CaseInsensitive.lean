import Questionnaire.Proofs.LowercaseWords
import Questionnaire.Proofs.SharedRules

/-!
# Operations ignore case

Every operation on registries and rules reads a name through its lowercase form, and
the words of a list through theirs.  So an operation cannot tell a name from its
lowercase form, nor from any other name with the same one, and since lowercasing keeps
the words of a list apart, a list may be lowercased as a whole.

## Main definitions

* `Text.CaseVariant` — a text and its lowercase form, or one that differs from it in the
  case of ASCII letters.

## Main results

* `Registry.touch_lowercase`, `Registry.touchWords_lowercase`, `RuleTable.addRule_lowercase` —
  an operation given the lowercase form of its name or list.
* `operations_ignore_case` — **no operation tells case variants apart.**
-/

namespace Questionnaire

open Text

namespace Text

/-- The second text is the lowercase form of the first, or they differ only in the case of
ASCII letters. -/
def CaseVariant (x y : Text) : Prop := y = lowercase x ∨ asciiLowercase y = asciiLowercase x

/-- Case variants have one lowercase form. -/
theorem CaseVariant.lowercase_eq {x y : Text} (h : CaseVariant x y) :
    lowercase x = lowercase y := by
  rcases h with rfl | h
  · exact (lowercase_lowercase x).symm
  · rw [← lowercase_asciiLowercase x, ← h, lowercase_asciiLowercase]

@[simp] theorem isEmpty_lowercase (t : Text) : (lowercase t).isEmpty = t.isEmpty := by
  rw [Bool.eq_iff_iff, List.isEmpty_iff, List.isEmpty_iff]
  exact lowercase_eq_nil_iff

end Text

/-! ### Registries -/

namespace Registry

@[simp] theorem touch_lowercase (change : Change) (name : Text) (r : Registry) :
    r.touch change (lowercase name) = r.touch change name := by
  rw [touch, touch, isEmpty_lowercase, lowercase_lowercase]

theorem touchEach_map_lowercase (change : Change) (names : List Text) (r : Registry) :
    r.touchEach change (names.map lowercase) = r.touchEach change names := by
  rw [touchEach, touchEach, List.foldl_map]
  congr 1
  funext r name
  exact touch_lowercase change name r

/-- A list may be lowercased before it is split into words. -/
@[simp] theorem touchWords_lowercase (change : Change) (list : Text) (r : Registry) :
    r.touchWords change (lowercase list) = r.touchWords change list := by
  rw [touchWords, touchWords, words_lowercase, touchEach_map_lowercase]

@[simp] theorem ofWords_lowercase (list : Text) (strength : Strength) :
    ofWords (lowercase list) strength = ofWords list strength :=
  touchWords_lowercase (.raise strength) list empty

@[simp] theorem find?_lowercase (name : Text) (r : Registry) :
    r.find? (lowercase name) = r.find? name := by
  rw [find?, find?, isEmpty_lowercase, lowercase_lowercase]

@[simp] theorem strength_lowercase (name : Text) (r : Registry) :
    r.strength (lowercase name) = r.strength name := by
  rw [strength, strength, find?_lowercase]

@[simp] theorem register_lowercase (name : Text) (r : Registry) :
    r.register (lowercase name) = r.register name := by
  rw [register, register, touch_lowercase, find?_lowercase]

@[simp] theorem occurrencesOf_lowercase (name : Text) (r : Registry) :
    r.occurrencesOf (lowercase name) = r.occurrencesOf name := by
  rw [occurrencesOf, occurrencesOf, register_lowercase]

end Registry

/-! ### Rule tables -/

namespace RuleTable

@[simp] theorem ruleOf?_lowercase (trigger : Text) (t : RuleTable) :
    t.ruleOf? (lowercase trigger) = t.ruleOf? trigger := by
  rw [ruleOf?, ruleOf?, lowercase_lowercase]

theorem bindEach_map_lowercase (number : Nat) (names : List Text) (triggers : Index Nat) :
    bindEach number (names.map lowercase) triggers = bindEach number names triggers := by
  rw [bindEach, bindEach, List.foldl_map]
  simp only [lowercase_lowercase]

/-- Either list of a rule may be lowercased before it is split into words. -/
theorem addRule_lowercase (triggers dependents : Text) (t : RuleTable) :
    t.addRule (lowercase triggers) (lowercase dependents) = t.addRule triggers dependents := by
  rw [addRule, addRule, Registry.ofWords_lowercase, words_lowercase, bindEach_map_lowercase,
    List.isEmpty_map]

theorem addRule_congr {triggers triggers' dependents dependents' : Text}
    (htriggers : lowercase triggers = lowercase triggers')
    (hdependents : lowercase dependents = lowercase dependents') (t : RuleTable) :
    t.addRule triggers dependents = t.addRule triggers' dependents' := by
  rw [← addRule_lowercase, htriggers, hdependents, addRule_lowercase]

theorem ruleOf?_congr {a b : Text} (h : lowercase a = lowercase b) (t : RuleTable) :
    t.ruleOf? a = t.ruleOf? b := by
  rw [← ruleOf?_lowercase, h, ruleOf?_lowercase]

theorem dependents?_congr {a b : Text} (h : lowercase a = lowercase b) (t : RuleTable) :
    t.dependents? a = t.dependents? b := by
  rw [dependents?, dependents?, ruleOf?_congr h]

end RuleTable

/-! ### The theorem -/

/-- **No operation tells case variants apart.**  A name may be replaced by its lowercase form,
or by a name that differs in the case of ASCII letters, and so may a whole list of names:
the answers and the registries and tables afterwards are the same. -/
theorem operations_ignore_case {x y : Text} (h : CaseVariant x y) :
    (∀ r : Registry,
      r.register x = r.register y ∧ r.occurrencesOf x = r.occurrencesOf y ∧
      r.strength x = r.strength y ∧ r.find? x = r.find? y ∧
      ∀ change, r.touch change x = r.touch change y ∧
        r.touchWords change x = r.touchWords change y) ∧
    (∀ strength, Registry.ofWords x strength = Registry.ofWords y strength) ∧
    (∀ t : RuleTable,
      (∀ target, t.applyRule x target = t.applyRule y target ∧
        t.retractRule x target = t.retractRule y target) ∧
      t.dependents? x = t.dependents? y ∧
      (∀ f, t.alterDependents f x = t.alterDependents f y) ∧
      ∀ other, t.sharesRule x other = t.sharesRule y other ∧
        t.sharesRule other x = t.sharesRule other y ∧
        t.addRule x other = t.addRule y other ∧
        t.addRule other x = t.addRule other y) ∧
    (words x).map lowercase = (words y).map lowercase ∧
    words (lowercase x) = (words x).map lowercase := by
  have hlower : lowercase x = lowercase y := h.lowercase_eq
  refine ⟨fun r => ⟨?_, ?_, ?_, ?_, fun change => ⟨?_, ?_⟩⟩, fun strength => ?_, fun t => ?_, ?_,
    words_lowercase x⟩
  · rw [← Registry.register_lowercase, hlower, Registry.register_lowercase]
  · rw [← Registry.occurrencesOf_lowercase, hlower, Registry.occurrencesOf_lowercase]
  · rw [← Registry.strength_lowercase, hlower, Registry.strength_lowercase]
  · rw [← Registry.find?_lowercase, hlower, Registry.find?_lowercase]
  · rw [← Registry.touch_lowercase, hlower, Registry.touch_lowercase]
  · rw [← Registry.touchWords_lowercase, hlower, Registry.touchWords_lowercase]
  · rw [← Registry.ofWords_lowercase, hlower, Registry.ofWords_lowercase]
  · have hrule : t.ruleOf? x = t.ruleOf? y := RuleTable.ruleOf?_congr hlower t
    have hdependents : t.dependents? x = t.dependents? y := RuleTable.dependents?_congr hlower t
    refine ⟨fun target => ⟨?_, ?_⟩, hdependents, fun f => ?_, fun other => ⟨?_, ?_, ?_, ?_⟩⟩
    · rw [RuleTable.applyRule, RuleTable.applyRule, hdependents]
    · rw [RuleTable.retractRule, RuleTable.retractRule, hdependents]
    · rw [RuleTable.alterDependents, RuleTable.alterDependents, hrule]
    · rw [RuleTable.sharesRule, RuleTable.sharesRule, hrule]
    · rw [RuleTable.sharesRule, RuleTable.sharesRule, hrule]
    · exact RuleTable.addRule_congr hlower rfl t
    · exact RuleTable.addRule_congr rfl hlower t
  · rw [← words_lowercase, hlower, words_lowercase]

/-- A list with a final sigma before its last word, and the same list in lowercase. -/
theorem operations_ignore_case_final_sigma :
    let x := "ΟΔΟΣ\tAİ".toList
    let y := "οδος\tai̇".toList
    CaseVariant x y ∧ CaseVariant "Ab".toList "aB".toList ∧
      Registry.ofWords x 2 = Registry.ofWords y 2 ∧
      Registry.empty.touch (.add 3) "Ab".toList = Registry.empty.touch (.add 3) "aB".toList := by
  intro x y
  have hlower : CaseVariant x y := Or.inl (by decide +kernel)
  have hascii : CaseVariant "Ab".toList "aB".toList := Or.inr (by decide +kernel)
  obtain ⟨-, hwords, -⟩ := operations_ignore_case hlower
  obtain ⟨hregistry, -⟩ := operations_ignore_case hascii
  exact ⟨hlower, hascii, hwords 2, ((hregistry .empty).2.2.2.2 (.add 3)).1⟩

end Questionnaire
