import Mathlib.Data.List.Basic
import Questionnaire.Text.Blank

/-!
# Words and blanks

A blank parts a text: its words are those before the blank and those behind it.
Everything about words follows from this and from texts without blanks, which are one
word unless they are empty.

## Main results

* `Text.words_append_blank`, `Text.words_of_solid` — the two equations.
* `Text.blank_induction` — every text is parted by its blanks into texts without blanks.
* `Text.words_intercalate` — the words of texts that are joined by blanks.
-/

namespace Questionnaire.Text

/-- The text has no blank in it. -/
def Solid (t : Text) : Prop := ∀ c ∈ t, isBlank c = false

theorem solid_nil : Solid [] := fun _ h => absurd h List.not_mem_nil

theorem solid_cons {c : Char} {t : Text} : Solid (c :: t) ↔ isBlank c = false ∧ Solid t :=
  List.forall_mem_cons

/-- A blank parts the words of a text. -/
theorem words_append_blank {c : Char} (hc : isBlank c = true) (t u : Text) :
    words (t ++ c :: u) = words t ++ words u := by
  unfold words
  rw [List.splitOnP_append_cons t u hc, List.filter_append]

theorem words_cons_blank {c : Char} (hc : isBlank c = true) (t : Text) :
    words (c :: t) = words t :=
  words_append_blank hc [] t

/-- A text without blanks is one word, unless it is empty. -/
theorem words_of_solid {t : Text} (h : Solid t) (hne : t ≠ []) : words t = [t] := by
  rw [words, List.splitOnP_eq_singleton h]
  simp [hne]

/-- Every text is parted by its blanks into texts without blanks. -/
theorem blank_induction {motive : Text → Prop} (solid : ∀ t, Solid t → motive t)
    (parted : ∀ t c u, Solid t → isBlank c = true → motive u → motive (t ++ c :: u))
    (t : Text) : motive t := by
  -- what was read so far is solid, and the next character either parts or prolongs it
  have h : ∀ t u : Text, Solid u → motive (u ++ t) := by
    intro t
    induction t with
    | nil =>
      intro u hu
      rw [List.append_nil]
      exact solid u hu
    | cons c t ih =>
      intro u hu
      by_cases hc : isBlank c = true
      · exact parted u c t hu hc (ih [] solid_nil)
      · rw [List.append_cons]
        refine ih _ fun d hd => ?_
        rcases List.mem_append.mp hd with hd | hd
        · exact hu d hd
        · rw [List.mem_singleton.mp hd]
          exact Bool.not_eq_true _ ▸ hc
  exact h t [] solid_nil

/-! ### Joined texts -/

/-- Blanks in front of a text belong to no word. -/
theorem words_append_of_blanks {sep : Text} (h : ∀ c ∈ sep, isBlank c = true) (t : Text) :
    words (sep ++ t) = words t := by
  induction sep with
  | nil => rfl
  | cons c sep ih =>
    rw [List.forall_mem_cons] at h
    rw [List.cons_append, words_cons_blank h.1, ih h.2]

theorem words_append_sep {sep : Text} (hne : sep ≠ []) (h : ∀ c ∈ sep, isBlank c = true)
    (t u : Text) : words (t ++ sep ++ u) = words t ++ words u := by
  obtain ⟨c, sep, rfl⟩ := List.exists_cons_of_ne_nil hne
  rw [List.forall_mem_cons] at h
  rw [List.append_assoc, List.cons_append, words_append_blank h.1, words_append_of_blanks h.2]

/-- **The words of texts that are joined by blanks** are the words of each. -/
theorem words_intercalate {sep : Text} (hne : sep ≠ []) (h : ∀ c ∈ sep, isBlank c = true)
    (ts : List Text) : words (sep.intercalate ts) = ts.flatMap words := by
  induction ts with
  | nil => rfl
  | cons t ts ih =>
    cases ts with
    | nil => simp
    | cons u ts =>
      rw [List.intercalate_cons_of_ne_nil (by simp), words_append_sep hne h, ih]
      rfl

end Questionnaire.Text
