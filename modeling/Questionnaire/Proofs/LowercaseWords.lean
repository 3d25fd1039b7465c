import Questionnaire.Proofs.Lowercase
import Questionnaire.Proofs.Words

/-!
# Lowercase and words

Lowercasing looks around a capital sigma, past characters that case ignores.  It never
looks past a blank, for a blank is neither cased nor ignored; and it makes no blank
and takes none away.  So the words of a lowercase text are the lowercase forms of the
words, although a word is lowercased there among its neighbours.  The case of ASCII
letters does not show either, for both cases of a letter are seen alike from around.

## Main definitions

* `CodeRange.apart` — two stretches of codes do not meet.
* `Text.caseStretches` — all stretches of the tables of letter case.

## Main results

* `Text.lowercaseFrom_append_blank` — a blank parts a text for lowercasing too.
* `Text.words_lowercase` — **the words of a lowercase text.**
* `Text.lowercase_asciiLowercase` — the case of ASCII letters does not show.
-/

namespace Questionnaire

namespace CodeRange

/-- The stretches have no code in common, as their ends tell. -/
def apart (a b : CodeRange) : Bool := a.2 < b.1 || b.2 < a.1

theorem not_holds_of_apart {a b : CodeRange} (h : a.apart b = true) {code : Nat}
    (ha : a.1 ≤ code ∧ code ≤ a.2) : b.holds code = false := by
  simp only [apart, Bool.or_eq_true, decide_eq_true_eq] at h
  simp only [holds, Bool.and_eq_false_iff, decide_eq_false_iff_not]
  omega

/-- A character that one table covers is in no stretch of a table that lies apart. -/
theorem not_holds_of_covers {as bs : List CodeRange}
    (h : (as.all fun a => bs.all a.apart) = true) {c : Char} (hc : covers as c = true) :
    ∀ b ∈ bs, b.holds c.toNat = false := by
  intro b hb
  obtain ⟨a, ha, hcode⟩ := covers_eq_true_iff.mp hc
  exact not_holds_of_apart (List.all_eq_true.mp (List.all_eq_true.mp h a ha) b hb) hcode

theorem covers_eq_false {bs : List CodeRange} {c : Char}
    (h : ∀ b ∈ bs, b.holds c.toNat = false) : covers bs c = false := by
  refine List.any_eq_false.mpr fun b hb => ?_
  rw [h b hb]
  exact Bool.false_ne_true

end CodeRange

/-- The codes of a run lie between its ends. -/
def CaseRun.codes (run : CaseRun) : CodeRange := (run.first, run.last)

/-- The lowercase forms of a run lie between those of its ends. -/
def CaseRun.images (run : CaseRun) : CodeRange := (run.image, run.greatestImage)

theorem CaseRun.not_holds_of_codes {run : CaseRun} {code : Nat}
    (h : run.codes.holds code = false) : run.holds code = false := by
  rw [← Bool.not_eq_true, holds_iff]
  rintro ⟨hfirst, hlast, -⟩
  have hcodes : run.codes.holds code = true := by simp [codes, CodeRange.holds, hfirst, hlast]
  rw [h] at hcodes
  cases hcodes

namespace Text

/-! ### Blanks have no case -/

/-- The stretches of the tables of letter case: the letters with case and what case ignores,
the letters that have a lowercase form, and these forms. -/
def caseStretches : List CodeRange :=
  casedRanges ++ caseIgnorableRanges ++ (specialRuns ++ lowercaseRuns).map CaseRun.codes ++
    lowercaseRuns.map CaseRun.images

theorem blankRanges_apart : (blankRanges.all fun a => caseStretches.all a.apart) = true := by
  decide +kernel

/-- A blank is in no table of letter case. -/
theorem not_holds_of_isBlank {c : Char} (hc : isBlank c = true) :
    ∀ b ∈ caseStretches, b.holds c.toNat = false :=
  CodeRange.not_holds_of_covers blankRanges_apart hc

theorem isCased_of_isBlank {c : Char} (hc : isBlank c = true) : isCased c = false := by
  refine CodeRange.covers_eq_false fun b hb => not_holds_of_isBlank hc b ?_
  simp [caseStretches, hb]

theorem isCaseIgnorable_of_isBlank {c : Char} (hc : isBlank c = true) :
    isCaseIgnorable c = false := by
  refine CodeRange.covers_eq_false fun b hb => not_holds_of_isBlank hc b ?_
  simp [caseStretches, hb]

theorem lowerChar_of_isBlank {c : Char} (hc : isBlank c = true) : lowerChar c = [c] := by
  refine lowerChar_of_not_holds fun run hrun => CaseRun.not_holds_of_codes ?_
  refine not_holds_of_isBlank hc _ ?_
  have hcodes := List.mem_map_of_mem (f := CaseRun.codes) hrun
  exact List.mem_append_left _ (List.mem_append_right _ hcodes)

theorem solid_specialForms : Solid specialForms := by
  have hchecked : (specialForms.all fun c => !isBlank c) = true := by decide
  intro c hc
  simpa using List.all_eq_true.mp hchecked c hc

/-- Lowercasing makes no blank. -/
theorem solid_lowerChar {c : Char} (hc : isBlank c = false) : Solid (lowerChar c) := by
  intro d hd
  rcases mem_lowerChar hd with hspecial | ⟨rfl, -⟩ | ⟨run, hrun, hholds, rfl⟩
  · exact solid_specialForms d hspecial
  · exact hc
  · -- the form lies among the forms of its run, and no blank does
    rw [← Bool.not_eq_true]
    intro hblank
    have himages : run.images ∈ caseStretches :=
      List.mem_append_right _ (List.mem_map_of_mem hrun)
    have hmiss := not_holds_of_isBlank hblank _ himages
    rw [toNat_ofNat_lower hrun hholds] at hmiss
    obtain ⟨hge, hle⟩ := CaseRun.lower_le hholds
    simp [CaseRun.images, CodeRange.holds, hge, hle] at hmiss

theorem solid_lowercaseFrom {t : Text} (ht : Solid t) (casedBefore : Bool) :
    Solid (lowercaseFrom casedBefore t) := by
  induction t generalizing casedBefore with
  | nil => exact solid_nil
  | cons c t ih =>
    obtain ⟨hc, ht⟩ := solid_cons.mp ht
    intro d hd
    rcases List.mem_append.mp hd with hd | hd
    · split_ifs at hd
      · rw [List.mem_singleton.mp hd]
        exact solid_specialForms 'ς' (by decide)
      · exact solid_lowerChar hc d hd
    · exact ih ht _ d hd

theorem solid_lowercase {t : Text} (ht : Solid t) : Solid (lowercase t) :=
  solid_lowercaseFrom ht false

/-! ### A blank ends every context -/

theorem lowercaseFrom_cons (casedBefore : Bool) (c : Char) (t : Text) :
    lowercaseFrom casedBefore (c :: t) =
      (if c = 'Σ' && casedBefore && !startsCased t then ['ς'] else lowerChar c) ++
        lowercaseFrom (casedAfter casedBefore c) t := rfl

/-- Nothing cased is sought behind a blank. -/
theorem startsCased_append_blank {c : Char} (hc : isBlank c = true) (t u : Text) :
    startsCased (t ++ c :: u) = startsCased t := by
  induction t with
  | nil =>
    have hdrop : (c :: u).dropWhile isCaseIgnorable = c :: u :=
      List.dropWhile_cons_of_neg (by simp [isCaseIgnorable_of_isBlank hc])
    rw [List.nil_append, startsCased, hdrop]
    exact isCased_of_isBlank hc
  | cons d t ih =>
    by_cases hd : isCaseIgnorable d = true
    · unfold startsCased at ih ⊢
      rw [List.cons_append, List.dropWhile_cons_of_pos hd, List.dropWhile_cons_of_pos hd]
      exact ih
    · unfold startsCased
      rw [List.cons_append, List.dropWhile_cons_of_neg hd, List.dropWhile_cons_of_neg hd]

/-- **A blank parts a text for lowercasing:** what stands behind it is lowercased as though
nothing stood before. -/
theorem lowercaseFrom_append_blank {c : Char} (hc : isBlank c = true) (casedBefore : Bool)
    (t u : Text) :
    lowercaseFrom casedBefore (t ++ c :: u) = lowercaseFrom casedBefore t ++ c :: lowercase u := by
  induction t generalizing casedBefore with
  | nil =>
    have hsigma : c ≠ 'Σ' := by
      rintro rfl
      exact absurd hc (by decide)
    have hafter : casedAfter casedBefore c = false := by
      rw [casedAfter, isCaseIgnorable_of_isBlank hc, isCased_of_isBlank hc]
      rfl
    rw [List.nil_append, lowercaseFrom_cons, lowerChar_of_isBlank hc, hafter]
    simp only [decide_eq_false hsigma, Bool.false_and]
    rfl
  | cons d t ih =>
    rw [List.cons_append, lowercaseFrom_cons, lowercaseFrom_cons, startsCased_append_blank hc, ih,
      List.append_assoc]

/-- **The words of a lowercase text** are the lowercase forms of the words. -/
theorem words_lowercase (t : Text) : words (lowercase t) = (words t).map lowercase := by
  induction t using blank_induction with
  | solid t ht =>
    by_cases hne : t = []
    · rw [hne]
      rfl
    · have hlower : lowercase t ≠ [] := fun h => hne (lowercase_eq_nil_iff.mp h)
      rw [words_of_solid ht hne, words_of_solid (solid_lowercase ht) hlower]
      rfl
  | parted t c u ht hc ih =>
    have hlower : lowercase (t ++ c :: u) = lowercase t ++ c :: lowercase u :=
      lowercaseFrom_append_blank hc false t u
    by_cases hne : t = []
    · rw [hlower, hne, lowercase_nil, List.nil_append, List.nil_append, words_cons_blank hc,
        words_cons_blank hc, ih]
    · have hlower' : lowercase t ≠ [] := fun h => hne (lowercase_eq_nil_iff.mp h)
      rw [hlower, words_append_blank hc, words_append_blank hc, ih, words_of_solid ht hne,
        words_of_solid (solid_lowercase ht) hlower']
      rfl

/-! ### The case of ASCII letters -/

/-- What lowercasing sees of a character: its form, and how it counts as a neighbour. -/
def SeenAlike (c d : Char) : Prop :=
  lowerChar c = lowerChar d ∧ isCased c = isCased d ∧
    isCaseIgnorable c = isCaseIgnorable d ∧ (c = 'Σ' ↔ d = 'Σ')

/-- The codes of the ASCII letters. -/
def asciiLetterRanges : List CodeRange := [(0x41, 0x5a), (0x61, 0x7a)]

theorem asciiLetterRanges_apart_caseIgnorableRanges :
    (asciiLetterRanges.all fun a => caseIgnorableRanges.all a.apart) = true := by decide +kernel

theorem isCaseIgnorable_of_asciiLetter {c : Char}
    (hc : CodeRange.covers asciiLetterRanges c = true) : isCaseIgnorable c = false :=
  CodeRange.covers_eq_false
    (CodeRange.not_holds_of_covers asciiLetterRanges_apart_caseIgnorableRanges hc)

/-- A capital and its small letter are cased ASCII letters, and the small letter is the
lowercase form of the capital. -/
def capitalFits (c : Char) : Bool :=
  ([c, c.toLower].all fun d =>
    CodeRange.covers asciiLetterRanges d && isCased d && d != 'Σ') && lowerChar c == [c.toLower]

theorem capitals_fit :
    ((List.range' 65 26).all fun code => capitalFits (Char.ofNat code)) = true := by
  decide +kernel

/-- Both cases of an ASCII letter are seen alike. -/
theorem seenAlike_toLower (c : Char) : SeenAlike c.toLower c := by
  by_cases hc : c.val ≥ 'A'.val ∧ c.val ≤ 'Z'.val
  · have hrange : 65 ≤ c.toNat ∧ c.toNat ≤ 90 :=
      ⟨UInt32.le_iff_toNat_le.mp hc.1, UInt32.le_iff_toNat_le.mp hc.2⟩
    have hcode : c.toNat ∈ List.range' 65 26 := List.mem_range'_1.mpr (by omega)
    have hfits := List.all_eq_true.mp capitals_fit _ hcode
    rw [Char.ofNat_toNat] at hfits
    simp only [capitalFits, List.all_cons, List.all_nil, Bool.and_true, Bool.and_eq_true,
      bne_iff_ne, beq_iff_eq] at hfits
    obtain ⟨⟨⟨⟨hletter, hcased⟩, hsigma⟩, ⟨hletter', hcased'⟩, hsigma'⟩, hcapital⟩ := hfits
    have hmem : c.toLower ∈ lowerChar c := by
      rw [hcapital]
      exact List.mem_singleton_self _
    refine ⟨?_, by rw [hcased, hcased'], ?_, by simp [hsigma, hsigma']⟩
    · rw [hcapital, lowerChar_of_mem_lowerChar hmem]
    · rw [isCaseIgnorable_of_asciiLetter hletter, isCaseIgnorable_of_asciiLetter hletter']
  · have hsame : c.toLower = c := dif_neg hc
    rw [hsame]
    exact ⟨rfl, rfl, rfl, Iff.rfl⟩

theorem startsCased_asciiLowercase (t : Text) : startsCased (asciiLowercase t) = startsCased t := by
  induction t with
  | nil => rfl
  | cons c t ih =>
    obtain ⟨-, hcased, hignorable, -⟩ := seenAlike_toLower c
    have hcons : asciiLowercase (c :: t) = c.toLower :: asciiLowercase t := rfl
    rw [hcons]
    unfold startsCased at ih ⊢
    by_cases hc : isCaseIgnorable c = true
    · rw [List.dropWhile_cons_of_pos hc, List.dropWhile_cons_of_pos (hignorable.trans hc)]
      exact ih
    · rw [List.dropWhile_cons_of_neg hc, List.dropWhile_cons_of_neg (by rwa [hignorable])]
      exact hcased

theorem lowercaseFrom_asciiLowercase (casedBefore : Bool) (t : Text) :
    lowercaseFrom casedBefore (asciiLowercase t) = lowercaseFrom casedBefore t := by
  induction t generalizing casedBefore with
  | nil => rfl
  | cons c t ih =>
    obtain ⟨hlower, hcased, hignorable, hsigma⟩ := seenAlike_toLower c
    have hcons : asciiLowercase (c :: t) = c.toLower :: asciiLowercase t := rfl
    have hafter : casedAfter casedBefore c.toLower = casedAfter casedBefore c := by
      rw [casedAfter, casedAfter, hcased, hignorable]
    rw [hcons, lowercaseFrom_cons, lowercaseFrom_cons, startsCased_asciiLowercase, hafter, hlower,
      ih, decide_eq_decide.mpr hsigma]

/-- **The case of ASCII letters does not show** in the lowercase form. -/
theorem lowercase_asciiLowercase (t : Text) : lowercase (asciiLowercase t) = lowercase t :=
  lowercaseFrom_asciiLowercase false t

end Text

end Questionnaire
