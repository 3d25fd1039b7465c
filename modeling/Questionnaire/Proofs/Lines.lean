import Mathlib.Data.List.Basic
import Questionnaire.Proofs.Layout
import Questionnaire.Text.Lines

/-!
# Lines and places

Two notions of a line meet here.  A place counts the line feeds before it; the
lines of a text drop their endings, a carriage return before the line feed with
them, and drop the empty line behind a last line feed.  Every text is a row of
closed lines and an open last one, and on that form both notions can be read off.

## Main definitions

* `Text.Visible before rest` — what comes first in `rest` is no part of a line
  ending, and if nothing comes, the text before does not end in a line feed.

## Main results

* `Text.exists_unlines_append` — every text is made of closed lines and an open one.
* `Text.lines_unlines_append`, `Position.behind_unlines_append` — the lines of such a text,
  and the place behind it.
* `Text.exists_line_of_visible` — **a visible place lies on a line,** and its column is
  the column of that line.
-/

namespace Questionnaire

open Text

namespace Text

/-! ### One line after the other -/

@[simp] theorem lines_nil : lines [] = [] := rfl

@[simp] theorem unlines_nil : unlines [] = [] := rfl

@[simp] theorem unlines_cons (row : Text) (rows : List Text) :
    unlines (row :: rows) = row ++ '\n' :: unlines rows := by
  simp [unlines]

theorem unlines_append (rows more : List Text) :
    unlines (rows ++ more) = unlines rows ++ unlines more := List.flatMap_append

theorem splitOn_of_not_mem {u : Text} (hu : '\n' ∉ u) : u.splitOn '\n' = [u] := by
  refine List.splitOnP_eq_singleton fun c hc => ?_
  rw [beq_eq_false_iff_ne]
  rintro rfl
  exact hu hc

theorem splitOn_append_newline {u : Text} (hu : '\n' ∉ u) (t : Text) :
    (u ++ '\n' :: t).splitOn '\n' = u :: t.splitOn '\n' := by
  rw [List.splitOn_eq_splitOnP, List.splitOnP_append_cons u t (by simp),
    ← List.splitOn_eq_splitOnP, ← List.splitOn_eq_splitOnP, splitOn_of_not_mem hu]
  rfl

/-- Closed lines are told apart by their line feeds. -/
theorem splitOn_unlines {rows : List Text} (h : ∀ u ∈ rows, '\n' ∉ u) :
    (unlines rows).splitOn '\n' = rows ++ [[]] := by
  induction rows with
  | nil => rfl
  | cons u rows ih =>
    rw [List.forall_mem_cons] at h
    rw [unlines_cons, splitOn_append_newline h.1, ih h.2, List.cons_append]

/-- The first line is closed by the first line feed. -/
theorem lines_append_newline {u : Text} (hu : '\n' ∉ u) (t : Text) :
    lines (u ++ '\n' :: t) = dropReturn u :: lines t := by
  obtain ⟨next, more, hnext⟩ := List.exists_cons_of_ne_nil (List.splitOn_ne_nil '\n' t)
  rw [lines, splitOn_append_newline hu, lines, hnext]
  rfl

/-- Without a line feed the whole text is one line, unless it is empty. -/
theorem lines_of_not_mem {u : Text} (hu : '\n' ∉ u) (hne : u ≠ []) : lines u = [u] := by
  rw [lines, splitOn_of_not_mem hu, linesOfPieces, if_neg (by simpa using hne)]

/-! ### Closed lines and an open one -/

/-- Every text is made of closed lines and an open last one. -/
theorem exists_unlines_append (t : Text) : ∃ closed last, t = unlines closed ++ last ∧
    (∀ u ∈ closed, '\n' ∉ u) ∧ '\n' ∉ last := by
  induction t with
  | nil => exact ⟨[], [], rfl, fun u hu => absurd hu List.not_mem_nil, List.not_mem_nil⟩
  | cons c t ih =>
    obtain ⟨closed, last, rfl, hclosed, hlast⟩ := ih
    by_cases hc : c = '\n'
    · -- a line feed closes an empty line
      refine ⟨[] :: closed, last, by simp [hc], ?_, hlast⟩
      rw [List.forall_mem_cons]
      exact ⟨List.not_mem_nil, hclosed⟩
    · -- any other character joins the first line
      have hmem : ∀ u : Text, '\n' ∉ u → '\n' ∉ c :: u := by
        intro u hu h
        rcases List.mem_cons.mp h with h | h
        · exact hc h.symm
        · exact hu h
      cases closed with
      | nil => exact ⟨[], c :: last, rfl, hclosed, hmem last hlast⟩
      | cons u closed =>
        rw [List.forall_mem_cons] at hclosed
        refine ⟨(c :: u) :: closed, last, by simp, ?_, hlast⟩
        rw [List.forall_mem_cons]
        exact ⟨hmem u hclosed.1, hclosed.2⟩

theorem lines_unlines_append {closed : List Text} (h : ∀ u ∈ closed, '\n' ∉ u) (t : Text) :
    lines (unlines closed ++ t) = closed.map dropReturn ++ lines t := by
  induction closed with
  | nil => rfl
  | cons u closed ih =>
    rw [List.forall_mem_cons] at h
    have happ : unlines (u :: closed) ++ t = u ++ '\n' :: (unlines closed ++ t) := by simp
    rw [happ, lines_append_newline h.1, ih h.2]
    rfl

theorem count_unlines {closed : List Text} (h : ∀ u ∈ closed, '\n' ∉ u) :
    (unlines closed).count '\n' = closed.length := by
  induction closed with
  | nil => rfl
  | cons u closed ih =>
    rw [List.forall_mem_cons] at h
    rw [unlines_cons, List.count_append, List.count_cons_self, ih h.2,
      List.count_eq_zero_of_not_mem h.1, List.length_cons]
    omega

/-- No line has a line feed in it. -/
theorem newline_not_mem_of_mem_lines {t u : Text} (h : u ∈ lines t) : '\n' ∉ u := by
  obtain ⟨closed, last, rfl, hclosed, hlast⟩ := exists_unlines_append t
  rw [lines_unlines_append hclosed] at h
  rcases List.mem_append.mp h with h | h
  · obtain ⟨w, hw, rfl⟩ := List.mem_map.mp h
    intro hmem
    unfold dropReturn at hmem
    split at hmem
    · exact hclosed w hw (List.dropLast_subset _ hmem)
    · exact hclosed w hw hmem
  · by_cases hne : last = []
    · rw [hne] at h
      exact absurd h List.not_mem_nil
    · rw [lines_of_not_mem hlast hne] at h
      exact List.mem_singleton.mp h ▸ hlast

/-- Closed lines end in a line feed. -/
theorem getLast?_unlines {closed : List Text} (h : closed ≠ []) :
    (unlines closed).getLast? = some '\n' := by
  obtain ⟨init, u, rfl⟩ := List.eq_nil_or_concat closed |>.resolve_left h
  rw [List.concat_eq_append, unlines_append, unlines_cons, unlines_nil, ← List.append_assoc,
    List.getLast?_concat]

end Text

/-- Behind closed lines and an open one the place is told by their number and its length. -/
theorem Position.behind_unlines_append {closed : List Text} {last : Text}
    (hclosed : ∀ u ∈ closed, '\n' ∉ u) (hlast : '\n' ∉ last) :
    behind (unlines closed ++ last) = ⟨1 + closed.length, 1 + last.length⟩ := by
  have hcount : (unlines closed ++ last).count '\n' = closed.length := by
    rw [List.count_append, count_unlines hclosed, List.count_eq_zero_of_not_mem hlast,
      Nat.add_zero]
  have hall : ∀ c ∈ last.reverse, (c != '\n') = true := by
    intro c hc
    rw [bne_iff_ne]
    rintro rfl
    exact hlast (List.mem_reverse.mp hc)
  have hwidth : ((unlines closed ++ last).reverse.takeWhile (· != '\n')).length =
      last.length := by
    rw [List.reverse_append, List.takeWhile_append_of_pos hall, List.length_append,
      List.length_reverse]
    -- the line feed before the open line stops the count
    rcases List.eq_nil_or_concat closed with rfl | ⟨init, u, rfl⟩
    · rfl
    · rw [List.concat_eq_append, unlines_append, List.reverse_append]
      simp
  rw [behind, hcount, hwidth]

namespace Text

/-! ### Visible places -/

/-- What comes first in `rest` is no part of a line ending; if nothing comes, the text
before is not empty and does not end in a line feed. -/
def Visible (before : Text) : Text → Prop
  | [] => before ≠ [] ∧ before.getLast? ≠ some '\n'
  | c :: rest => c ≠ '\n' ∧ (c = '\r' → rest.head? ≠ some '\n')

/-- A character that is not the last one of its line stays when the ending is dropped. -/
theorem dropReturn_append_cons (u : Text) {c : Char} {w : Text} (h : c = '\r' → w ≠ []) :
    dropReturn (u ++ c :: w) = u ++ c :: dropReturn w := by
  cases w with
  | nil =>
    have hc : c ≠ '\r' := fun hc => h hc rfl
    have hnil : dropReturn [] = [] := rfl
    rw [hnil, dropReturn, List.getLast?_concat, if_neg (by simpa using hc)]
  | cons d w =>
    have hlast : (u ++ c :: d :: w).getLast? = (d :: w).getLast? := by
      rw [List.append_cons, List.getLast?_append_of_ne_nil _ (by simp)]
    unfold dropReturn
    rw [hlast]
    split
    · rw [List.append_cons, List.dropLast_append_of_ne_nil (by simp), List.append_assoc]
      rfl
    · rfl

/-- An open line that is followed by a visible place is closed, if at all, behind that
place. -/
theorem exists_head?_lines {last rest : Text} (hlast : '\n' ∉ last)
    (h : rest = [] → last ≠ [])
    (hvisible : ∀ c t, rest = c :: t → c ≠ '\n' ∧ (c = '\r' → t.head? ≠ some '\n')) :
    ∃ v, (lines (last ++ rest)).head? = some (last ++ v) ∧ v.head? = rest.head? := by
  cases rest with
  | nil =>
    refine ⟨[], ?_, rfl⟩
    rw [List.append_nil, lines_of_not_mem hlast (h rfl)]
    rfl
  | cons c t =>
    obtain ⟨hc, hreturn⟩ := hvisible c t rfl
    obtain ⟨closed, open', rfl, hclosed, hopen⟩ := exists_unlines_append t
    have hmem : ∀ u : Text, '\n' ∉ u → '\n' ∉ last ++ c :: u := by
      intro u hu hu'
      rcases List.mem_append.mp hu' with hu' | hu'
      · exact hlast hu'
      · rcases List.mem_cons.mp hu' with hu' | hu'
        · exact hc hu'.symm
        · exact hu hu'
    cases closed with
    | nil =>
      refine ⟨c :: open', ?_, rfl⟩
      rw [unlines_nil, List.nil_append, lines_of_not_mem (hmem open' hopen) (by simp)]
      rfl
    | cons w closed =>
      have hw := hclosed w List.mem_cons_self
      have happ : last ++ c :: (unlines (w :: closed) ++ open') =
          (last ++ c :: w) ++ '\n' :: (unlines closed ++ open') := by simp
      refine ⟨c :: dropReturn w, ?_, rfl⟩
      rw [happ, lines_append_newline (hmem w hw), List.head?_cons, dropReturn_append_cons]
      -- a carriage return directly before the line feed would belong to the ending
      rintro rfl rfl
      exact hreturn rfl (by simp)

/-- **A visible place lies on a line.**  The line begins with as many characters as the
column tells, and what follows them on it is what comes at the place. -/
theorem exists_line_of_visible {before rest : Text} (h : Visible before rest) :
    ∃ u v, (lines (before ++ rest))[(Position.behind before).line - 1]? = some (u ++ v) ∧
      u.length + 1 = (Position.behind before).column ∧ v.head? = rest.head? := by
  obtain ⟨closed, last, rfl, hclosed, hlast⟩ := exists_unlines_append before
  have hnonempty : rest = [] → last ≠ [] := by
    rintro rfl rfl
    obtain ⟨hne, hend⟩ := h
    rw [List.append_nil] at hne hend
    have hclosed' : closed ≠ [] := by
      rintro rfl
      exact hne rfl
    exact hend (getLast?_unlines hclosed')
  obtain ⟨v, hline, hv⟩ := exists_head?_lines hlast hnonempty fun c t hrest => by
    subst hrest
    exact h
  refine ⟨last, v, ?_, ?_, hv⟩
  · rw [Position.behind_unlines_append hclosed hlast, List.append_assoc,
      lines_unlines_append hclosed, Nat.add_sub_cancel_left,
      List.getElem?_append_right (by simp), List.length_map, Nat.sub_self,
      ← List.head?_eq_getElem?, hline]
  · rw [Position.behind_unlines_append hclosed hlast]
    exact Nat.add_comm _ _

/-- Behind a last line feed there is no line. -/
theorem length_lines_lt {before : Text} (h : before.getLast? = some '\n') :
    (lines before).length < (Position.behind before).line := by
  obtain ⟨closed, last, rfl, hclosed, hlast⟩ := exists_unlines_append before
  have hnil : last = [] := by
    by_contra hne
    rw [List.getLast?_append_of_ne_nil _ hne] at h
    exact hlast (List.mem_of_getLast? h)
  rw [Position.behind_unlines_append hclosed hlast, hnil, lines_unlines_append hclosed]
  simp

end Text

end Questionnaire
