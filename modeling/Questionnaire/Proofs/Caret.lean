import Questionnaire.Proofs.Excerpt
import Questionnaire.Proofs.Lines

/-!
# The caret stands under its character

The place of a character is told by the line feeds before it and by the characters behind
the last of them.  An excerpt shows the line of that number behind a label, and the caret is
put as far to the right as the label is wide and as many characters as the column tells; so
it stands under the character, however wide the label.  All other rows show a line behind a
label, in which a bar stands, and so the caret row is told from them.

## Main definitions

* `Excerpt.IsCaretRow` — a row that shows nothing but a caret.

## Main results

* `Excerpt.newline_not_mem_row`, `Excerpt.not_isCaretRow_row` — rows of lines.
* `excerpt_points_at_character` — **the caret stands under its character.**
-/

namespace Questionnaire

open Text

namespace Excerpt

/-- The row shows nothing but a caret. -/
def IsCaretRow (shown : Text) : Prop := ∃ width, shown = List.replicate width ' ' ++ ['^']

theorem newline_not_mem_label (n : Nat) : '\n' ∉ label n := by
  simp [label, Numeral.pad, Numeral.newline_not_mem_write]

theorem newline_not_mem_row (n : Nat) {line : Text} (h : '\n' ∉ line) : '\n' ∉ row n line := by
  rw [row, List.mem_append, not_or]
  exact ⟨newline_not_mem_label n, h⟩

/-- A bar stands behind the number of a line. -/
theorem not_isCaretRow_row (n : Nat) (line : Text) : ¬ IsCaretRow (row n line) := by
  rintro ⟨width, hrow⟩
  have hbar : '|' ∈ row n line := by simp [row, label]
  rw [hrow] at hbar
  simp at hbar

/-- A shown row is the row of a line. -/
theorem exists_of_mem_numbered {source : List Text} {start count : Nat} {shown : Text}
    (h : shown ∈ numbered source start count) : ∃ n, shown = row n (source[n - 1]?.getD []) := by
  obtain ⟨n, -, rfl⟩ := List.mem_map.mp h
  exact ⟨n, rfl⟩

/-- The rows of lines hold no line feed and are told from the caret row. -/
theorem row_of_mem_numbered (source : Text) {start count : Nat} {shown : Text}
    (h : shown ∈ numbered (lines source) start count) : '\n' ∉ shown ∧ ¬ IsCaretRow shown := by
  obtain ⟨n, rfl⟩ := exists_of_mem_numbered h
  refine ⟨newline_not_mem_row n ?_, not_isCaretRow_row n _⟩
  cases hline : (lines source)[n - 1]? with
  | none => exact List.not_mem_nil
  | some line => exact newline_not_mem_of_mem_lines (List.mem_of_getElem? hline)

end Excerpt

/-! ### The theorem -/

open Excerpt

/-- **The caret stands under its character.**  For a character that is no part of a line
ending, at the place that is reached by moving over what stands before it, the excerpt has
the rows of the lines from two before its line to one behind it, as far as there are such
lines, and directly behind the row of its line one row more: a caret, above which that very
character stands. -/
theorem excerpt_points_at_character {before rest : Text} {c : Char} (hnewline : c ≠ '\n')
    (hreturn : c = '\r' → rest.head? ≠ some '\n') :
    let source := before ++ c :: rest
    let place := Position.start.after before
    let top := max 1 (place.line - 2)
    let bottom := min (lines source).length (place.line + 1)
    ∃ above line below width,
      excerpt source place.line place.column =
        unlines (above ++ [row place.line line, List.replicate width ' ' ++ ['^']] ++ below) ∧
      above ++ row place.line line :: below = numbered (lines source) top (bottom + 1 - top) ∧
      above.length = place.line - top ∧ (lines source)[place.line - 1]? = some line ∧
      (row place.line line)[width]? = some c ∧
      ∀ shown ∈ above ++ row place.line line :: below, '\n' ∉ shown ∧ ¬ IsCaretRow shown := by
  intro source place top bottom
  have hplace : place = .behind before := Position.start_after before
  have hvisible : Visible before (c :: rest) := ⟨hnewline, hreturn⟩
  obtain ⟨u, v, hline, hcolumn, hv⟩ := exists_line_of_visible hvisible
  rw [← hplace] at hline hcolumn
  have hfirst : 1 ≤ place.line := by
    rw [hplace]
    exact Nat.le_add_right 1 _
  have hlast : place.line ≤ (lines source).length := by
    have hlt : place.line - 1 < (lines source).length :=
      (List.getElem?_eq_some_iff.mp hline).1
    omega
  have hshown := numbered_first_last hfirst hlast
  have hrows := rows_of_le hfirst hlast place.column
  rw [hline, Option.getD_some] at hshown hrows
  rw [← hcolumn, caret_eq] at hrows
  refine ⟨_, u ++ v, _, (row place.line u).length, ?_, hshown.symm, ?_, hline, ?_, ?_⟩
  · rw [excerpt, ← hcolumn, hrows]
  · rw [numbered, List.length_map, List.length_range']
    rfl
  · -- the caret is as far to the right as the label and what stands before the character
    obtain ⟨w, rfl⟩ := List.head?_eq_some_iff.mp hv
    rw [row, ← List.append_assoc, ← row, List.getElem?_append_right le_rfl, Nat.sub_self]
    rfl
  · rw [← hshown]
    exact fun shown => row_of_mem_numbered source

/-- A character behind another one that is not ASCII, on a line whose ending has a carriage
return. -/
theorem excerpt_points_at_character_second_line :
    let before := "a\r\né".toList
    let rest := "\r\nz".toList
    'κ' ≠ '\n' ∧ ('κ' = '\r' → rest.head? ≠ some '\n') ∧
      ∃ above below width,
        excerpt (before ++ 'κ' :: rest) 2 2 =
          unlines (above ++ [row 2 ['é', 'κ'], List.replicate width ' ' ++ ['^']] ++ below) ∧
        above.length = 1 ∧ (row 2 ['é', 'κ'])[width]? = some 'κ' := by
  intro before rest
  have hnewline : 'κ' ≠ '\n' := by decide
  have hreturn : 'κ' = '\r' → rest.head? ≠ some '\n' := fun h => absurd h (by decide)
  obtain ⟨above, line, below, width, hexcerpt, -, hlength, hline, hcaret, -⟩ :=
    @excerpt_points_at_character before rest 'κ' hnewline hreturn
  obtain rfl : ['é', 'κ'] = line := Option.some.inj hline
  exact ⟨hnewline, hreturn, above, below, width, hexcerpt, hlength, hcaret⟩

end Questionnaire
