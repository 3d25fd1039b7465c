import Questionnaire.Literal.Size
import Questionnaire.Proofs.DecimalForm

/-!
# Written sizes

A size is a number, blanks and the letters of a unit.  A text is written in one way as
these parts, though the letter of a power of ten might as well begin a unit: a power
needs a digit, and no digit stands in a unit.  So reading a size tells the texts that
are no size from those with an unknown unit, and only a size with a known unit can be
too large.

## Main definitions

* `Size.Form` — a size by its parts.
* `Size.Form.written` — the text of a size.

## Main results

* `Size.Form.split?_written`, `Size.exists_form_of_split?` — the parts are read as they were
  written.
* `Size.Form.written_injective` — a text is a size in one way.
* `Size.exists_form_trim` — blanks at the end of a size do not matter.
* `Size.read_written` — what is read depends on the parts alone.
* `Size.read_follows_grammar` — **which texts are refused as sizes, and why.**
-/

namespace Questionnaire.Size

open Text

/-! ### Letters -/

theorem toNat_of_isAlpha {c : Char} (hc : c.isAlpha = true) :
    65 ≤ c.toNat ∧ c.toNat ≤ 90 ∨ 97 ≤ c.toNat ∧ c.toNat ≤ 122 := by
  delta Char.isAlpha Char.isUpper Char.isLower at hc
  simp only [Bool.or_eq_true, Bool.and_eq_true, decide_eq_true_eq] at hc
  exact hc

theorem toNat_of_isDigit {c : Char} (hc : c.isDigit = true) : 48 ≤ c.toNat ∧ c.toNat ≤ 57 := by
  simp only [Char.isDigit, Bool.and_eq_true, decide_eq_true_eq] at hc
  exact hc

theorem not_isDigit_of_isAlpha {c : Char} (hc : c.isAlpha = true) : c.isDigit = false := by
  have hcode := toNat_of_isAlpha hc
  rw [← Bool.not_eq_true]
  intro hdigit
  have hcode' := toNat_of_isDigit hdigit
  omega

/-- No blank stands among the digits and the letters. -/
theorem toNat_of_isBlank {c : Char} (hc : isBlank c = true) : c.toNat ≤ 32 ∨ 133 ≤ c.toNat := by
  rw [isBlank, CodeRange.covers_eq_true_iff] at hc
  simp only [blankRanges, List.mem_cons, List.not_mem_nil, or_false, exists_eq_or_imp,
    exists_eq_left] at hc
  omega

theorem not_isBlank_of_isAlpha {c : Char} (hc : c.isAlpha = true) : isBlank c = false := by
  have hcode := toNat_of_isAlpha hc
  rw [← Bool.not_eq_true]
  intro hblank
  have hcode' := toNat_of_isBlank hblank
  omega

theorem not_isBlank_of_isDigit {c : Char} (hc : c.isDigit = true) : isBlank c = false := by
  have hcode := toNat_of_isDigit hc
  rw [← Bool.not_eq_true]
  intro hblank
  have hcode' := toNat_of_isBlank hblank
  omega

theorem not_isDigit_of_isBlank {c : Char} (hc : isBlank c = true) : c.isDigit = false := by
  rw [← Bool.not_eq_true]
  intro hdigit
  rw [not_isBlank_of_isDigit hdigit] at hc
  cases hc

/-! ### Forms -/

/-- A size by its parts. -/
structure Form where
  /-- The number. -/
  number : Decimal.Form
  /-- The blanks behind the number. -/
  blanks : Text
  /-- The unit. -/
  unit : Text
  /-- There are only blanks between number and unit. -/
  isBlank : ∀ c ∈ blanks, Text.isBlank c = true
  /-- There are only letters in a unit. -/
  isAlpha : ∀ c ∈ unit, c.isAlpha = true

namespace Form

/-- The text of a size. -/
def written (f : Form) : Text := f.number.written ++ (f.blanks ++ f.unit)

theorem not_isBlank_of_head?_unit (f : Form) : ∀ c ∈ f.unit.head?, Text.isBlank c = false := by
  intro c hc
  exact not_isBlank_of_isAlpha (f.isAlpha c (List.mem_of_mem_head? hc))

/-- No number goes on in blanks and letters. -/
theorem ends_number (f : Form) : Decimal.Ends (f.blanks ++ f.unit) := by
  have hmem : ∀ c ∈ f.blanks ++ f.unit, c.isDigit = false ∧ c ≠ '.' := by
    refine List.forall_mem_append.mpr ⟨fun c hc => ?_, fun c hc => ?_⟩
    · have hblank := f.isBlank c hc
      refine ⟨not_isDigit_of_isBlank hblank, ?_⟩
      rintro rfl
      exact absurd hblank (by decide)
    · have hletter := f.isAlpha c hc
      refine ⟨not_isDigit_of_isAlpha hletter, ?_⟩
      rintro rfl
      exact absurd hletter (by decide)
  refine Decimal.ends_of_forall (fun c hc => (hmem c hc).1) fun hpoint => ?_
  exact (hmem '.' (List.mem_of_mem_head? hpoint)).2 rfl

/-- The parts are read as they were written. -/
theorem split?_written (f : Form) : split? f.written = some (f.number.decimal, f.unit) := by
  have hunit : (f.blanks ++ f.unit).dropWhile Text.isBlank = f.unit :=
    dropWhile_append_of_head? f.isBlank f.not_isBlank_of_head?_unit
  have hletters : f.unit.all Char.isAlpha = true := List.all_eq_true.mpr f.isAlpha
  rw [written, split?, f.number.scan?_written f.ends_number]
  simp only [hunit, hletters, if_true]

/-- A text is a size in one way. -/
theorem written_injective {f g : Form} (h : f.written = g.written) : f = g := by
  obtain ⟨hnumber, hrest⟩ := Decimal.Form.written_append_inj f.ends_number g.ends_number h
  obtain ⟨hblanks, hunit⟩ := append_inj_of_head? f.isBlank g.isBlank
    f.not_isBlank_of_head?_unit g.not_isBlank_of_head?_unit hrest
  cases f
  cases g
  obtain rfl := hnumber
  obtain rfl := hblanks
  obtain rfl := hunit
  rfl

end Form

/-- There are no blanks in a number. -/
theorem not_isBlank_of_mem_number (f : Decimal.Form) : ∀ c ∈ f.written, Text.isBlank c = false := by
  have hsign : ∀ sign, ∀ c ∈ Decimal.Sign.written sign, Text.isBlank c = false := by
    intro sign c hc
    rcases Decimal.Sign.eq_of_mem_written hc with rfl | rfl <;> decide
  have hfraction : ∀ c ∈ Decimal.Form.writtenFraction f.fraction, Text.isBlank c = false := by
    have hdecimals := f.isDigit_decimals
    rw [Decimal.Form.decimals] at hdecimals
    cases hf : f.fraction with
    | none => exact fun c hc => absurd hc List.not_mem_nil
    | some digits =>
      rw [hf] at hdecimals
      exact List.forall_mem_cons.mpr
        ⟨by decide, fun c hc => not_isBlank_of_isDigit (hdecimals c hc)⟩
  have hpower : ∀ c ∈ Decimal.Form.writtenPower f.power, Text.isBlank c = false := by
    cases f.power with
    | none => exact fun c hc => absurd hc List.not_mem_nil
    | some p =>
      refine List.forall_mem_cons.mpr ⟨by cases p.capital <;> decide, ?_⟩
      exact List.forall_mem_append.mpr
        ⟨hsign p.sign, fun c hc => not_isBlank_of_isDigit (p.isDigit c hc)⟩
  refine List.forall_mem_append.mpr ⟨fun c hc => not_isBlank_of_isDigit (f.isDigit_whole c hc), ?_⟩
  exact List.forall_mem_append.mpr ⟨hfraction, hpower⟩

/-- Without a unit the blanks behind the number are trimmed off. -/
theorem exists_form_trim (number : Decimal.Form) {blanks unit : Text}
    (hblanks : ∀ c ∈ blanks, Text.isBlank c = true) (hunit : ∀ c ∈ unit, c.isAlpha = true) :
    ∃ f : Form, f.written = trim (number.written ++ (blanks ++ unit)) ∧ f.number = number ∧
      f.unit = unit := by
  have hnumber := not_isBlank_of_mem_number number
  obtain ⟨c, rest, hcons, -⟩ := number.exists_written_eq_cons
  have hne : number.written ≠ [] := hcons ▸ List.cons_ne_nil c rest
  have hhead : ∀ c ∈ number.written.head?, Text.isBlank c = false := fun c hc =>
    hnumber c (List.mem_of_mem_head? hc)
  cases hu : unit with
  | nil =>
    refine ⟨⟨number, [], [], by simp, by simp⟩, ?_, rfl, rfl⟩
    rw [List.append_nil, trim, strip_append hne hhead
      (fun c hc => hnumber c (List.mem_of_mem_getLast? hc)) hblanks]
    exact List.append_nil _
  | cons c letters =>
    rw [← hu]
    refine ⟨⟨number, blanks, unit, hblanks, hunit⟩, ?_, rfl, rfl⟩
    have hlast : ∀ c ∈ (number.written ++ (blanks ++ unit)).getLast?, Text.isBlank c = false := by
      rw [← List.append_assoc, List.getLast?_append_of_ne_nil _ (hu ▸ List.cons_ne_nil c letters)]
      exact fun c hc => not_isBlank_of_isAlpha (hunit c (List.mem_of_mem_getLast? hc))
    have htrim := strip_append (v := []) (List.append_ne_nil_of_left_ne_nil hne _)
      (by rwa [List.head?_append_of_ne_nil _ hne]) hlast fun c hc => absurd hc List.not_mem_nil
    rw [List.append_nil] at htrim
    rw [trim, htrim]
    rfl

/-- What is split into number and unit was written as a size. -/
theorem exists_form_of_split? {t unit : Text} {d : Decimal} (h : split? t = some (d, unit)) :
    ∃ f : Form, f.written = t ∧ f.number.decimal = d ∧ f.unit = unit := by
  rw [split?] at h
  split at h
  · cases h
  · next number rest hscan =>
    obtain ⟨f, rfl, rfl⟩ := Decimal.exists_form_of_scan? hscan
    obtain ⟨blanks, letters, -, hdrop, rfl, hblanks, -⟩ := exists_stretch isBlank rest
    simp only [hdrop] at h
    split at h
    · next hletters =>
      cases h
      exact ⟨⟨f, blanks, unit, hblanks, List.all_eq_true.mp hletters⟩, rfl, rfl, rfl⟩
    · cases h

/-! ### Units -/

/-- Each unit has one number of bytes. -/
theorem bytesOf?_eq_some_iff {unit : Text} {factor : Nat} :
    bytesOf? unit = some factor ↔ (unit, factor) ∈ unitTable := by
  have hunits : ∀ entry ∈ unitTable, bytesOf? entry.1 = some entry.2 := by decide
  constructor
  · intro h
    obtain ⟨⟨name, k⟩, hfind, rfl⟩ := Option.map_eq_some_iff.mp h
    obtain rfl : name = unit := by simpa using List.find?_some hfind
    exact List.mem_of_find?_eq_some hfind
  · exact hunits (unit, factor)

theorem bytesOf?_eq_none_iff {unit : Text} :
    bytesOf? unit = none ↔ ∀ entry ∈ unitTable, entry.1 ≠ unit := by
  simp [bytesOf?]

/-! ### Reading -/

/-- What is read of a size depends on its number and its unit alone. -/
theorem read_written {t : Text} {f : Form} (h : f.written = trim t) :
    read t = match bytesOf? f.unit with
      | none => .error (.unit f.unit)
      | some factor =>
        match bytes? f.number.decimal factor with
        | none => .error (.range (trim t))
        | some bytes => .ok bytes := by
  have hsplit : split? (trim t) = some (f.number.decimal, f.unit) := by
    rw [← h, f.split?_written]
  cases hunit : bytesOf? f.unit with
  | none => simp only [read, hsplit, hunit]
  | some factor =>
    cases hbytes : bytes? f.number.decimal factor with
    | none => simp only [read, hsplit, hunit, hbytes]
    | some bytes => simp only [read, hsplit, hunit, hbytes]

/-- **Which texts are refused as sizes, and why.**  A text is a size in at most one way,
blanks at its ends aside.  One that is no size is refused for its form.  The number of
a size always has a value in double precision; a size with an unknown unit is refused
for its unit, and one with a known unit can only be too large. -/
theorem read_follows_grammar (t : Text) :
    (∀ f g : Form, f.written = trim t → g.written = trim t → f = g) ∧
    ((¬ ∃ f : Form, f.written = trim t) → read t = .error (.form (trim t))) ∧
    ∀ f : Form, f.written = trim t →
      Binary64.read? f.number.written = some (f.number.decimal.toBinary64 false) ∧
      ((∀ entry ∈ unitTable, entry.1 ≠ f.unit) → read t = .error (.unit f.unit)) ∧
      ∀ factor, (f.unit, factor) ∈ unitTable →
        read t = .error (.range (trim t)) ∨ ∃ bytes, read t = .ok bytes := by
  refine ⟨fun f g hf hg => Form.written_injective (hf.trans hg.symm), fun hnone => ?_,
    fun f hf => ⟨f.number.read?_written, fun hunit => ?_, fun factor hfactor => ?_⟩⟩
  · cases hsplit : split? (trim t) with
    | none => rw [read, hsplit]
    | some parts =>
      obtain ⟨f, hf, -⟩ := exists_form_of_split? hsplit
      exact absurd ⟨f, hf⟩ hnone
  · rw [read_written hf, bytesOf?_eq_none_iff.mpr hunit]
  · rw [read_written hf, bytesOf?_eq_some_iff.mpr hfactor]
    cases hbytes : bytes? f.number.decimal factor with
    | none => exact Or.inl (by simp only [hbytes])
    | some bytes => exact Or.inr ⟨bytes, by simp only [hbytes]⟩

/-- An unknown unit is refused even behind a number that is too large for any unit. -/
theorem read_follows_grammar_unknown_unit :
    read " 1e999 TB".toList = .error (.unit "TB".toList) := by
  have hparts := (read_follows_grammar " 1e999 TB".toList).2.2
    ⟨⟨['1'], none, some ⟨false, none, ['9', '9', '9'], by decide, List.all_eq_true.mp (by decide)⟩,
      by decide, List.all_eq_true.mp (by decide)⟩, [' '], ['T', 'B'],
      List.all_eq_true.mp (by decide), List.all_eq_true.mp (by decide)⟩ rfl
  exact hparts.2.1 (by decide)

end Questionnaire.Size
