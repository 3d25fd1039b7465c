import Mathlib.Data.List.Chain
import Mathlib.Tactic.SplitIfs
import Questionnaire.Text.Lowercase

/-!
# Lowercase twice

The lowercase form of a text has no letter left that lowercasing changes,
whatever its context: the images of the table lie outside of the table, and
neither special letter is among them.  So the lowercase form of a name is a
canonical one.

## Main definitions

* `CaseRun.misses run other` — no lowercase form of a code of the one run is a code of the
  other, judged by their ends and by parity.
* `CaseRun.missesAll run runs` — the same for runs in ascending order, of which most are
  judged together.

## Main results

* `Text.mem_lowerChar` — where a lowercase character comes from.
* `Text.lowerChar_of_mem_lowerChar` — lowercase characters stay as they are.
* `Text.lowercase_lowercase` — so do lowercase texts.
* `Text.lowercase_eq_nil_iff` — no other text has an empty lowercase form.
-/

namespace Questionnaire

/-! ### Runs that do not meet -/

namespace CaseRun

/-- The lowercase forms of a run are no codes of the other: they lie before it or behind
it, or between its codes. -/
def misses (run other : CaseRun) : Bool :=
  run.image + (run.last - run.first) < other.first || other.last < run.image ||
    ((run.first == run.last || run.step == 2) && other.step == 2 &&
      (run.image + other.first) % 2 == 1)

theorem holds_iff {run : CaseRun} {code : Nat} : run.holds code = true ↔
    run.first ≤ code ∧ code ≤ run.last ∧ (code - run.first) % run.step = 0 := by
  simp [holds, and_assoc]

theorem not_holds_of_misses {run other : CaseRun} (h : run.misses other = true) {code : Nat}
    (hcode : run.holds code = true) : other.holds (run.lower code) = false := by
  rw [← Bool.not_eq_true, holds_iff]
  rintro ⟨hfirst', hlast', hstep'⟩
  obtain ⟨hfirst, hlast, hstep⟩ := holds_iff.mp hcode
  simp only [misses, lower, Bool.or_eq_true, Bool.and_eq_true, decide_eq_true_eq,
    beq_iff_eq] at h hfirst' hlast' hstep'
  rcases h with (hbefore | hbehind) | ⟨⟨hrun, htwo⟩, hodd⟩
  · omega
  · omega
  · -- the codes of the other run are of one parity, and the forms of the other parity
    rw [htwo] at hstep'
    rcases hrun with hone | hrun
    · omega
    · rw [hrun] at hstep
      omega

/-- The greatest of the lowercase forms. -/
def greatestImage (run : CaseRun) : Nat := run.image + (run.last - run.first)

/-- The lowercase forms of a run are no codes of runs in ascending order: where one of these
lies behind the forms, so do all that follow it. -/
def missesAll (run : CaseRun) : List CaseRun → Bool
  | [] => true
  | other :: rest =>
    bif Nat.blt other.last run.image then run.missesAll rest
    else Nat.blt run.greatestImage other.first || (run.misses other && run.missesAll rest)

theorem misses_of_missesAll {run : CaseRun} {runs : List CaseRun}
    (hascending : runs.Pairwise fun a b => a.first ≤ b.first) (h : run.missesAll runs = true) :
    ∀ other ∈ runs, run.misses other = true := by
  induction runs with
  | nil => exact fun other hother => absurd hother List.not_mem_nil
  | cons next rest ih =>
    obtain ⟨hnext, hrest⟩ := List.pairwise_cons.mp hascending
    rw [List.forall_mem_cons]
    rw [missesAll] at h
    cases hbefore : Nat.blt next.last run.image with
    | true =>
      rw [hbefore, cond_true] at h
      have hlt : next.last < run.image := Nat.blt_eq.mp hbefore
      exact ⟨by simp [misses, hlt], ih hrest h⟩
    | false =>
      rw [hbefore, cond_false, Bool.or_eq_true, Bool.and_eq_true] at h
      rcases h with hbehind | ⟨hmisses, h⟩
      · have hall : ∀ other : CaseRun, next.first ≤ other.first → run.misses other = true := by
          intro other hle
          have hlt : run.image + (run.last - run.first) < other.first :=
            Nat.lt_of_lt_of_le (Nat.blt_eq.mp hbehind) hle
          simp [misses, hlt]
        exact ⟨hall next (Nat.le_refl _), fun other hother => hall other (hnext other hother)⟩
      · exact ⟨hmisses, ih hrest h⟩

theorem lower_le {run : CaseRun} {code : Nat} (hcode : run.holds code = true) :
    run.image ≤ run.lower code ∧ run.lower code ≤ run.greatestImage := by
  obtain ⟨hfirst, hlast, -⟩ := holds_iff.mp hcode
  unfold lower greatestImage
  omega

end CaseRun

namespace Text

/-! ### The table -/

/-- The capital sigma and the dotted capital I, as runs of one code. -/
def specialRuns : List CaseRun := [⟨0x3a3, 0x3a3, 1, 0x3c3⟩, ⟨0x130, 0x130, 1, 0x69⟩]

theorem lowercaseRuns_ascending : lowercaseRuns.Pairwise fun a b => a.first ≤ b.first := by
  have hchain : lowercaseRuns.IsChain fun a b => a.first ≤ b.first := by decide +kernel
  have htrans : IsTrans CaseRun fun a b => a.first ≤ b.first := ⟨fun _ _ _ => Nat.le_trans⟩
  exact List.isChain_iff_pairwise.mp hchain

theorem lowercaseRuns_missesAll :
    (lowercaseRuns.all fun run => specialRuns.all run.misses && run.missesAll lowercaseRuns) =
      true := by
  decide +kernel

theorem lowercaseRuns_misses :
    (lowercaseRuns.all fun run => (specialRuns ++ lowercaseRuns).all run.misses) = true := by
  refine List.all_eq_true.mpr fun run hrun => ?_
  have hchecked := List.all_eq_true.mp lowercaseRuns_missesAll run hrun
  obtain ⟨hspecial, hall⟩ := Bool.and_eq_true_iff.mp hchecked
  rw [List.all_append, hspecial, Bool.true_and, List.all_eq_true]
  exact CaseRun.misses_of_missesAll lowercaseRuns_ascending hall

theorem lowercaseRuns_valid :
    (lowercaseRuns.all fun run => run.greatestImage < 0xd800 ||
      (0xdfff < run.image && run.greatestImage < 0x110000)) = true := by
  decide +kernel

/-- The lowercase forms of the table are codes of characters. -/
theorem toNat_ofNat_lower {run : CaseRun} (hrun : run ∈ lowercaseRuns) {code : Nat}
    (hcode : run.holds code = true) : (Char.ofNat (run.lower code)).toNat = run.lower code := by
  have hvalid := List.all_eq_true.mp lowercaseRuns_valid run hrun
  simp only [Bool.or_eq_true, Bool.and_eq_true, decide_eq_true_eq] at hvalid
  obtain ⟨hge, hle⟩ := CaseRun.lower_le hcode
  have h : (run.lower code).isValidChar := by
    unfold Nat.isValidChar
    omega
  rw [Char.ofNat, dif_pos h]
  rfl

/-- Characters that are in no run of the table, and are not special, stay as they are. -/
theorem lowerChar_of_not_holds {c : Char}
    (h : ∀ run ∈ specialRuns ++ lowercaseRuns, run.holds c.toNat = false) :
    lowerChar c = [c] := by
  have hspecial : ∀ run ∈ specialRuns, run.holds c.toNat = false := fun run hrun =>
    h run (List.mem_append_left _ hrun)
  have hdotted : c ≠ 'İ' := by
    rintro rfl
    exact absurd (hspecial ⟨0x130, 0x130, 1, 0x69⟩ (by decide)) (by decide)
  have hsigma : c ≠ 'Σ' := by
    rintro rfl
    exact absurd (hspecial ⟨0x3a3, 0x3a3, 1, 0x3c3⟩ (by decide)) (by decide)
  have hnone : lowercaseRuns.find? (·.holds c.toNat) = none :=
    List.find?_eq_none.mpr fun run hrun => by
      rw [h run (List.mem_append_right _ hrun)]
      exact Bool.false_ne_true
  rw [lowerChar, if_neg hdotted, if_neg hsigma, hnone]

/-- The characters in the forms of the special letters. -/
def specialForms : List Char := ['i', '\u0307', 'σ', 'ς']

theorem specialForms_stay : (specialForms.all fun c => lowerChar c == [c]) = true := by
  decide +kernel

theorem lowerChar_of_mem_specialForms {c : Char} (h : c ∈ specialForms) : lowerChar c = [c] :=
  beq_iff_eq.mp (List.all_eq_true.mp specialForms_stay c h)

/-- Where the lowercase form of a character comes from: the character is special, or it stays
as it is, or a run of the table holds it. -/
theorem mem_lowerChar {c d : Char} (h : d ∈ lowerChar c) :
    d ∈ specialForms ∨ d = c ∧ lowerChar c = [c] ∨
      ∃ run ∈ lowercaseRuns, run.holds c.toNat = true ∧ d = Char.ofNat (run.lower c.toNat) := by
  by_cases hdotted : c = 'İ'
  · rw [lowerChar, if_pos hdotted] at h
    have hforms : ['i', '\u0307'] ⊆ specialForms := by decide
    exact Or.inl (hforms h)
  by_cases hsigma : c = 'Σ'
  · rw [lowerChar, if_neg hdotted, if_pos hsigma] at h
    have hforms : ['σ'] ⊆ specialForms := by decide
    exact Or.inl (hforms h)
  cases hfind : lowercaseRuns.find? (·.holds c.toNat) with
  | none =>
    have hstays : lowerChar c = [c] := by
      rw [lowerChar, if_neg hdotted, if_neg hsigma, hfind]
    rw [hstays] at h
    exact Or.inr (Or.inl ⟨List.mem_singleton.mp h, hstays⟩)
  | some run =>
    rw [lowerChar, if_neg hdotted, if_neg hsigma, hfind] at h
    have hholds : run.holds c.toNat = true := by simpa using List.find?_some hfind
    exact Or.inr (Or.inr ⟨run, List.mem_of_find?_eq_some hfind, hholds, List.mem_singleton.mp h⟩)

/-- **Lowercase characters stay as they are.** -/
theorem lowerChar_of_mem_lowerChar {c d : Char} (h : d ∈ lowerChar c) : lowerChar d = [d] := by
  rcases mem_lowerChar h with hspecial | ⟨rfl, hstays⟩ | ⟨run, hrun, hholds, rfl⟩
  · exact lowerChar_of_mem_specialForms hspecial
  · exact hstays
  · -- the form is outside of the table and not special
    refine lowerChar_of_not_holds fun other hother => ?_
    rw [toNat_ofNat_lower hrun hholds]
    exact CaseRun.not_holds_of_misses
      (List.all_eq_true.mp (List.all_eq_true.mp lowercaseRuns_misses run hrun) other hother)
      hholds

theorem lowerChar_ne_nil (c : Char) : lowerChar c ≠ [] := by
  unfold lowerChar
  split_ifs
  · simp
  · simp
  · split <;> simp

/-! ### Texts -/

theorem lowerChar_of_mem_lowercaseFrom {t : Text} {casedBefore : Bool} {d : Char}
    (h : d ∈ lowercaseFrom casedBefore t) : lowerChar d = [d] := by
  induction t generalizing casedBefore with
  | nil => exact absurd h List.not_mem_nil
  | cons c t ih =>
    rcases List.mem_append.mp h with h | h
    · split_ifs at h
      · rw [List.mem_singleton.mp h]
        exact lowerChar_of_mem_specialForms (by decide)
      · exact lowerChar_of_mem_lowerChar h
    · exact ih h

/-- A text of characters that stay as they are stays as it is. -/
theorem lowercaseFrom_of_lowerChar {t : Text} (h : ∀ c ∈ t, lowerChar c = [c])
    (casedBefore : Bool) : lowercaseFrom casedBefore t = t := by
  induction t generalizing casedBefore with
  | nil => rfl
  | cons c t ih =>
    have hc : lowerChar c = [c] := h c List.mem_cons_self
    have hsigma : c ≠ 'Σ' := by
      rintro rfl
      exact absurd hc (by decide)
    rw [lowercaseFrom, ih fun d hd => h d (List.mem_cons_of_mem c hd), hc]
    simp [hsigma]

/-- **Lowercase texts stay as they are.** -/
@[simp] theorem lowercase_lowercase (t : Text) : lowercase (lowercase t) = lowercase t :=
  lowercaseFrom_of_lowerChar (fun _ h => lowerChar_of_mem_lowercaseFrom h) false

/-- Only the empty text has an empty lowercase form. -/
theorem lowercase_eq_nil_iff {t : Text} : lowercase t = [] ↔ t = [] := by
  constructor
  · intro h
    cases t with
    | nil => rfl
    | cons c t =>
      have hhead := (List.append_eq_nil_iff.mp h).1
      split_ifs at hhead
      exact absurd hhead (lowerChar_ne_nil c)
  · rintro rfl
    rfl

end Text

end Questionnaire
