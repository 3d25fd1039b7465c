import Mathlib.Data.List.Basic
import Questionnaire.Json.Counts
import Questionnaire.Json.Value
import Questionnaire.Proofs.JsonStrings
import Questionnaire.Proofs.Stretches

/-!
# Written counts are read back

An object of counts is written without blanks, each field as a string, a colon and the
digits of a number.  A comma or a brace ends the digits, so each field is read up to what
follows it, and the object with it.

## Main definitions

* `Counts.writtenField` — a field as it is written.

## Main results

* `Counts.number?_write` — a number.
* `Counts.field?_written` — a field.
* `Counts.read?_compact` — **an object.**
-/

namespace Questionnaire

namespace Counts

open Numeral Json

/-! ### Numbers -/

theorem number?_write {n : Nat} (hn : n ≤ greatest) {c : Char} (hc : c.isDigit = false)
    (r : Text) : number? (write n ++ c :: r) = some (n, c :: r) := by
  have hdigits : ∀ d ∈ write n, d.isDigit = true := fun _ h => isDigit_of_mem_write h
  have htake : (write n ++ c :: r).takeWhile Char.isDigit = write n := by
    rw [List.takeWhile_append_of_pos hdigits, List.takeWhile_cons_of_neg (by simp [hc]),
      List.append_nil]
  have hdrop : (write n ++ c :: r).dropWhile Char.isDigit = c :: r := by
    rw [List.dropWhile_append_of_pos hdigits, List.dropWhile_cons_of_neg (by simp [hc])]
  have hempty : (write n).isEmpty = false := by
    simp [write]
  have hzero : ((write n).head? == some '0' && decide (1 < (write n).length)) = false := by
    by_cases hhead : (write n).head? = some '0'
    · rw [eq_zero_of_head?_write hhead]
      rfl
    · rw [beq_eq_false_iff_ne.mpr hhead, Bool.false_and]
  rw [number?, htake, hdrop, hempty, hzero, value_write, if_neg (by simp), if_neg (by omega)]

/-! ### Fields -/

/-- A field as it is written. -/
def writtenField (field : Text × Nat) : Text := quoted field.1 ++ [':'] ++ write field.2

theorem writtenField_ne_nil (field : Text × Nat) : writtenField field ≠ [] := by
  simp [writtenField, quoted]

theorem skip_cons {c : Char} (hc : isSpace c = false) (t : Text) : skip (c :: t) = c :: t :=
  List.dropWhile_cons_of_neg (by simp [hc])

theorem isSpace_of_isDigit {c : Char} (hc : c.isDigit = true) : isSpace c = false := by
  rw [← Bool.not_eq_true]
  intro hspace
  simp only [isSpace, Bool.or_eq_true, beq_iff_eq] at hspace
  rcases hspace with ((rfl | rfl) | rfl) | rfl <;> exact absurd hc (by decide)

theorem skip_write (n : Nat) (t : Text) : skip (write n ++ t) = write n ++ t := by
  obtain ⟨d, digits, hwrite⟩ := List.exists_cons_of_ne_nil (write_ne_nil n)
  have hd : d.isDigit = true := isDigit_of_mem_write (hwrite ▸ List.mem_cons_self)
  rw [hwrite, List.cons_append]
  exact skip_cons (isSpace_of_isDigit hd) _

/-- **A written field is read back,** up to what ends its digits. -/
theorem field?_written {field : Text × Nat} (hfield : field.2 ≤ greatest) {c : Char}
    (hdigit : c.isDigit = false) (hspace : isSpace c = false) (r : Text) :
    field? (writtenField field ++ c :: r) = some (field, c :: r) := by
  have hwritten : writtenField field ++ c :: r =
      '"' :: (field.1.flatMap escapeChar ++ '"' :: ':' :: (write field.2 ++ c :: r)) := by
    simp [writtenField, quoted]
  rw [hwritten, field?, skip_cons (by decide)]
  simp only [closeString?_escaped]
  rw [skip_cons (by decide)]
  simp only [skip_write, number?_write hfield hdigit, Option.map_some, skip_cons hspace]

/-- Written fields are read back, up to the closing brace. -/
theorem fields?_written {fields : List (Text × Nat)} (hne : fields ≠ [])
    (hfields : ∀ field ∈ fields, field.2 ≤ greatest) {fuel : Nat} (hfuel : fields.length ≤ fuel)
    (r : Text) :
    fields? fuel ([','].intercalate (fields.map writtenField) ++ '\x7d' :: r) =
      some (fields, r) := by
  induction fields generalizing fuel with
  | nil => exact absurd rfl hne
  | cons field fields ih =>
    rw [List.forall_mem_cons] at hfields
    obtain ⟨fuel, rfl⟩ : ∃ n, fuel = n + 1 := ⟨fuel - 1, by simp at hfuel; omega⟩
    cases fields with
    | nil =>
      rw [List.map_cons, List.map_nil, List.intercalate_singleton, fields?,
        field?_written hfields.1 (by decide) (by decide)]
      rfl
    | cons next fields =>
      have hle : (next :: fields).length ≤ fuel := by simpa using hfuel
      have hrest := ih (by simp) hfields.2 hle
      rw [List.map_cons, List.intercalate_cons_of_ne_nil (by simp), List.append_assoc,
        List.append_assoc, List.singleton_append, fields?,
        field?_written hfields.1 (by decide) (by decide)]
      simp only [hrest, Option.map_some]

/-! ### Objects -/

theorem length_le_length_intercalate {parts : List Text} (h : ∀ part ∈ parts, part ≠ [])
    (sep : Text) : parts.length ≤ (sep.intercalate parts).length := by
  induction parts with
  | nil => exact Nat.zero_le _
  | cons part parts ih =>
    rw [List.forall_mem_cons] at h
    have hpart : 0 < part.length := List.length_pos_iff.mpr h.1
    cases parts with
    | nil =>
      rw [List.intercalate_singleton]
      exact hpart
    | cons next parts =>
      have hrest := ih h.2
      rw [List.intercalate_cons_of_ne_nil (by simp)]
      simp only [List.length_append, List.length_cons] at hrest ⊢
      omega

theorem compactFields_natural (fields : List (Text × Nat)) :
    compactFields (fields.map fun field => (field.1, .natural field.2)) =
      fields.map writtenField := by
  induction fields with
  | nil => rfl
  | cons field fields ih =>
    rw [List.map_cons, compactFields, ih]
    rfl

/-- The first field opens with a quote, so the object does not look empty. -/
theorem exists_cons_of_writtenFields (field : Text × Nat) (fields : List (Text × Nat)) :
    ∃ t, [','].intercalate ((field :: fields).map writtenField) = '"' :: t := by
  cases fields with
  | nil => exact ⟨_, rfl⟩
  | cons next fields =>
    rw [List.map_cons, List.intercalate_cons_of_ne_nil (by simp)]
    exact ⟨_, rfl⟩

/-- **A written object of counts is read back.** -/
theorem read?_compact {fields : List (Text × Nat)}
    (h : ∀ field ∈ fields, field.2 ≤ greatest) :
    read? (Json.object (fields.map fun field => (field.1, .natural field.2))).compact =
      some fields := by
  rw [compact, compactFields_natural, List.append_assoc, List.singleton_append, read?,
    skip_cons (by decide)]
  cases fields with
  | nil => rfl
  | cons field fields =>
    obtain ⟨t, ht⟩ := exists_cons_of_writtenFields field fields
    have hlength : ((field :: fields).map writtenField).length ≤ ('"' :: t).length := by
      rw [← ht]
      refine length_le_length_intercalate ?_ [',']
      exact List.forall_mem_map.mpr fun field _ => writtenField_ne_nil field
    rw [List.length_map] at hlength
    have hfuel : (field :: fields).length ≤ ('"' :: t ++ ['\x7d']).length := by
      rw [List.length_append]
      exact Nat.le_add_right_of_le hlength
    have hread := fields?_written (List.cons_ne_nil field fields) h hfuel []
    have hskip : skip ('"' :: (t ++ ['\x7d'])) = '"' :: (t ++ ['\x7d']) := skip_cons (by decide) _
    rw [ht, List.cons_append] at hread ⊢
    simp only [hskip, hread]
    rfl

end Counts

end Questionnaire
