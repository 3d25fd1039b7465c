import Questionnaire.Template.Excerpt

/-!
# The rows of an excerpt

An excerpt is a stretch of numbered lines with a caret put in directly behind the
line that it is about.  Where the source has no such line the stretch is shown
without a caret.

## Main definitions

* `Excerpt.numbered source start count` — a stretch of numbered lines.

## Main results

* `Excerpt.numbered_first_last` — a stretch is cut at the line that it is around.
* `Excerpt.rows_of_le`, `Excerpt.rows_of_lt` — the rows around a line that there is, and
  around one that there is not.
* `Excerpt.caret_eq` — the caret stands under the first character behind a part of its line.
-/

namespace Questionnaire.Excerpt

/-- The lines from number `start` on, each behind its number. -/
def numbered (source : List Text) (start count : Nat) : List Text :=
  (List.range' start count).map fun n => row n (source[n - 1]?.getD [])

/-- Only the line that an excerpt is about has a caret. -/
theorem flatMap_row_of_not_mem (source : List Text) (column : Nat) {line : Nat} {ns : List Nat}
    (h : line ∉ ns) :
    (ns.flatMap fun n =>
      row n (source[n - 1]?.getD []) :: (if n = line then [caret n column] else [])) =
      ns.map fun n => row n (source[n - 1]?.getD []) := by
  induction ns with
  | nil => rfl
  | cons n ns ih =>
    rw [List.mem_cons, not_or] at h
    rw [List.flatMap_cons, ih h.2, if_neg (Ne.symm h.1), List.map_cons]
    rfl

theorem first_le {line : Nat} (h : 1 ≤ line) : first line ≤ line := by
  unfold first
  omega

/-- The stretch around a line of the source is cut in front of the line and behind it. -/
theorem range'_first_last {total line : Nat} (hfirst : 1 ≤ line) (hlast : line ≤ total) :
    List.range' (first line) (last total line + 1 - first line) =
      List.range' (first line) (line - first line) ++
        line :: List.range' (line + 1) (last total line - line) := by
  have hle := first_le hfirst
  have hend : line ≤ last total line := by
    unfold last
    omega
  have hlen : last total line + 1 - first line =
      (line - first line) + (last total line - line + 1) := by omega
  have hcut : first line + (line - first line) = line := by omega
  rw [hlen, ← List.range'_append_1, hcut, List.range'_succ]

/-- The lines around a line of the source are those before it, the line, and those behind
it. -/
theorem numbered_first_last {source : List Text} {line : Nat} (hfirst : 1 ≤ line)
    (hlast : line ≤ source.length) :
    numbered source (first line) (last source.length line + 1 - first line) =
      numbered source (first line) (line - first line) ++
        row line (source[line - 1]?.getD []) ::
          numbered source (line + 1) (last source.length line - line) := by
  rw [numbered, range'_first_last hfirst hlast, List.map_append, List.map_cons]
  rfl

/-- Around a line of the source: what is shown before it, the line, its caret, and what is
shown behind it. -/
theorem rows_of_le {source : List Text} {line : Nat} (hfirst : 1 ≤ line)
    (hlast : line ≤ source.length) (column : Nat) :
    rows source line column =
      numbered source (first line) (line - first line) ++
        [row line (source[line - 1]?.getD []), caret line column] ++
        numbered source (line + 1) (last source.length line - line) := by
  have hle := first_le hfirst
  have hbefore : line ∉ List.range' (first line) (line - first line) := by
    rw [List.mem_range'_1]
    omega
  have hbehind : line ∉ List.range' (line + 1) (last source.length line - line) := by
    rw [List.mem_range'_1]
    omega
  rw [rows, range'_first_last hfirst hlast, List.flatMap_append, List.flatMap_cons,
    flatMap_row_of_not_mem source column hbefore, flatMap_row_of_not_mem source column hbehind,
    if_pos rfl, List.append_assoc]
  rfl

/-- Around a line behind the end of the source there is no caret. -/
theorem rows_of_lt {source : List Text} {line : Nat} (h : source.length < line) (column : Nat) :
    rows source line column =
      numbered source (first line) (last source.length line + 1 - first line) := by
  refine flatMap_row_of_not_mem source column ?_
  rw [List.mem_range'_1]
  unfold last
  omega

/-- The caret stands under the first character behind a part of its line. -/
theorem caret_eq (n : Nat) (u : Text) :
    caret n (u.length + 1) = List.replicate (row n u).length ' ' ++ ['^'] := by
  rw [caret, row, List.length_append, Nat.add_sub_cancel]

end Questionnaire.Excerpt
