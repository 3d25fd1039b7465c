import Questionnaire.Proofs.Breakoff
import Questionnaire.Proofs.Compile
import Questionnaire.Proofs.Excerpt
import Questionnaire.Proofs.Lines

/-!
# Where errors are shown

An error of a template is found where something stands that is no blank, or at the
very end of the source: a pair that cannot be read is refused behind blanks that were
skipped, and a pair that does not fit at its key.  So the line of an error is among
the lines of the source and the report shows it, with the caret under what was
refused.  One place has no line: the end of a source that ends in a line feed.

## Main definitions

* `Position.LiesIn` — a place where something that is no blank stands, or the end.
* `TemplateError.reportWith` — the report of an error with given rows.

## Main results

* `tokenize_error_liesIn`, `Block.liesIn_of_mem_tokensBehind`, `compileWith_error_liesIn` —
  every error lies in the source.
* `report_shows_error` — **which reports show the place of their error.**
-/

namespace Questionnaire

open Text

/-! ### Places of errors -/

/-- Something that is no blank stands at the place, or the text ends there. -/
def Position.LiesIn (pos : Position) (source : Text) : Prop :=
  ∃ before rest, before ++ rest = source ∧ pos = .behind before ∧
    ∀ c ∈ rest.head?, isBlank c = false

/-- Where reading breaks off, something that is no blank is refused. -/
theorem tokenize_error_liesIn {source : Text} {e : TemplateError}
    (h : tokenize source = .error e) : e.position.LiesIn source := by
  obtain ⟨layout, rest, rfl, -, -, hstops, read, fault, hmisread, rfl⟩ :=
    exists_misread_of_tokenize_error h
  obtain ⟨refused, rfl, hblank⟩ := hmisread.exists_rest fun c hc => (hstops c hc).1
  exact ⟨layout.written ++ read, refused, List.append_assoc .., rfl, hblank⟩

/-- A token stands where its key begins. -/
theorem Block.liesIn_of_mem_tokensBehind (blocks : List Block) (before last : Text) :
    ∀ token ∈ tokensBehind before blocks,
      token.position.LiesIn (before ++ (blocks.flatMap Block.written ++ last)) := by
  induction blocks generalizing before with
  | nil => intro token h; exact absurd h List.not_mem_nil
  | cons b blocks ih =>
    intro token h
    have htext : before ++ ((b :: blocks).flatMap Block.written ++ last) =
        before ++ b.written ++ (blocks.flatMap Block.written ++ last) := by
      rw [List.flatMap_cons, List.append_assoc, List.append_assoc]
    rcases List.mem_cons.mp h with rfl | h
    · refine ⟨before ++ b.trivia,
        b.pair.written ++ (blocks.flatMap Block.written ++ last), ?_, rfl, ?_⟩
      · rw [htext, Block.written]
        simp only [List.append_assoc]
      · intro c hc
        exact (b.pair.stops_written _ c hc).1
    · rw [htext]
      exact ih _ token h

/-- A token that does not fit is refused at its own place. -/
theorem Draft.exists_of_feedAll_error {tokens : List Token} {d : Draft} {e : TemplateError}
    (h : feedAll tokens d = .error e) : ∃ token ∈ tokens, e.position = token.position := by
  obtain ⟨token, htoken, m, hfail⟩ := Except.exists_of_foldlM_eq_error h
  obtain ⟨cause, -, rfl⟩ := Except.mapError_eq_error.mp hfail
  exact ⟨token, htoken, rfl⟩

/-- **Every error lies in the source.** -/
theorem compileWith_error_liesIn {settings : Settings} {source : Text} {e : TemplateError}
    (h : compileWith settings source = .error e) : e.position.LiesIn source := by
  rcases compileWith_eq_error.mp h with h | ⟨tokens, htokens, h⟩
  · exact tokenize_error_liesIn h
  · obtain ⟨blocks, last, -, rfl, rfl⟩ := @exists_blocks_of_tokenizeFrom [] _ _ htokens
    obtain ⟨token, htoken, hposition⟩ := Draft.exists_of_feedAll_error h
    rw [hposition]
    exact Block.liesIn_of_mem_tokensBehind blocks [] last token htoken

/-! ### Reports -/

/-- The report of an error with given rows for its excerpt. -/
def TemplateError.reportWith (e : TemplateError) (rows : List Text) : Text :=
  e.heading ++ ['\n'] ++ e.cause.message ++ ['\n'] ++ unlines rows

theorem TemplateError.report_eq (e : TemplateError) (source : Text) :
    e.report source =
      e.reportWith (Excerpt.rows (lines source) e.position.line e.position.column) := rfl

/-- An empty template has no error. -/
theorem compileWith_nil (settings : Settings) : ∃ config, compileWith settings [] = .ok config := by
  have hread : tokenize [] = .ok [] := tokenizeFrom_final _ (.closed .nil)
  exact ⟨_, (compileWith_eq_ok_iff hread).mpr ⟨_, rfl, rfl⟩⟩

/-- **Which reports show the place of their error.**  An error is refused where something
stands that is no blank, or at the end of the source.  Its report has the line of the
error with the caret directly under it, below what was refused or just behind the last
character of the line if the source ends there.  Only at the end of a source that ends
in a line feed there is no such line, and then the report has no caret. -/
theorem report_shows_error {settings : Settings} {source : Text} {e : TemplateError}
    (h : compileWith settings source = .error e) :
    ∃ before rest, before ++ rest = source ∧ e.position = .behind before ∧
      (∀ c ∈ rest.head?, isBlank c = false) ∧
      (¬ (rest = [] ∧ source.getLast? = some '\n') →
        ∃ above below u v, u.length + 1 = e.position.column ∧ v.head? = rest.head? ∧
          (lines source)[e.position.line - 1]? = some (u ++ v) ∧
          e.report source = e.reportWith (above ++
            [Excerpt.row e.position.line (u ++ v),
              List.replicate (Excerpt.row e.position.line u).length ' ' ++ ['^']] ++ below)) ∧
      (rest = [] ∧ source.getLast? = some '\n' →
        (lines source).length < e.position.line ∧
          ∃ start count,
            e.report source = e.reportWith (Excerpt.numbered (lines source) start count)) := by
  obtain ⟨before, rest, rfl, hposition, hblank⟩ := compileWith_error_liesIn h
  refine ⟨before, rest, rfl, hposition, hblank, ?_, ?_⟩
  · intro hend
    have hvisible : Visible before rest := by
      cases rest with
      | nil =>
        rw [List.append_nil] at h hend
        refine ⟨?_, fun hlast => hend ⟨rfl, hlast⟩⟩
        rintro rfl
        obtain ⟨config, hconfig⟩ := compileWith_nil settings
        rw [hconfig] at h
        cases h
      | cons c rest =>
        -- a line feed and a carriage return are blanks
        have hc : isBlank c = false := hblank c rfl
        refine ⟨?_, ?_⟩
        · rintro rfl
          exact absurd hc (by decide)
        · rintro rfl
          exact absurd hc (by decide)
    obtain ⟨u, v, hline, hcolumn, hv⟩ := exists_line_of_visible hvisible
    rw [← hposition] at hline hcolumn
    have hlt := (List.getElem?_eq_some_iff.mp hline).1
    have hfirst : 1 ≤ e.position.line := by
      rw [hposition]
      exact Nat.le_add_right 1 _
    have hle : e.position.line ≤ (lines (before ++ rest)).length := by omega
    have hrows := Excerpt.rows_of_le hfirst hle e.position.column
    rw [hline, Option.getD_some, ← hcolumn, Excerpt.caret_eq] at hrows
    have hreport := e.report_eq (before ++ rest)
    rw [← hcolumn, hrows] at hreport
    exact ⟨_, _, u, v, hcolumn, hv, hline, hreport⟩
  · rintro ⟨rfl, hlast⟩
    rw [List.append_nil] at hlast ⊢
    have hlt := length_lines_lt hlast
    rw [← hposition] at hlt
    exact ⟨hlt, _, _, by rw [TemplateError.report_eq, Excerpt.rows_of_lt hlt]⟩

/-- A word that is no key, behind a comment and on a line whose ending has a carriage
return. -/
theorem report_shows_error_second_line :
    let source := "# c\r\n OPTION \r\n".toList
    let e : TemplateError := ⟨⟨2, 2⟩, .reading (.unknownKey "OPTION".toList)⟩
    compileWith .initial source = .error e ∧
      ∃ above below, e.report source = e.reportWith
        (above ++ ["    2 |  OPTION ".toList, "         ^".toList] ++ below) := by
  intro source e
  have herror : compileWith .initial source = .error e := by
    rw [compileWith, tokenize, tokenizeFrom_eq]
    decide +kernel
  refine ⟨herror, ?_⟩
  obtain ⟨before, rest, htext, hposition, -, hshown, -⟩ := report_shows_error herror
  have hrest : rest ≠ [] := by
    rintro rfl
    rw [List.append_nil] at htext
    rw [htext] at hposition
    exact absurd hposition (by decide)
  obtain ⟨above, below, u, v, hcolumn, -, hline, hreport⟩ := hshown fun h => hrest h.1
  -- the line is known, and the column cuts it behind its first character
  have huv : " OPTION ".toList = u ++ v := Option.some.inj hline
  have hu : u = [' '] := by
    have hlength : u.length = 1 := Nat.succ.inj hcolumn
    have htake := congrArg (List.take u.length) huv
    rw [List.take_left, hlength] at htake
    exact htake.symm
  have hrows : [Excerpt.row e.position.line " OPTION ".toList,
      List.replicate (Excerpt.row e.position.line [' ']).length ' ' ++ ['^']] =
      ["    2 |  OPTION ".toList, "         ^".toList] := by decide +kernel
  rw [← huv, hu, hrows] at hreport
  exact ⟨above, below, hreport⟩

/-- A key without a colon at the end of a source that ends in a line feed: the error lies on
a line that is not shown, and no caret is. -/
theorem report_lacks_caret_behind_last_newline :
    let source := "KEYBIND\n".toList
    let e : TemplateError := ⟨⟨2, 1⟩, .reading (.missingColon (.setting .keybind))⟩
    compile source = .error e ∧ e.report source =
      "Template syntax error at line 2, column 1\nexpected ':' after KEYBIND\n".toList ++
        "    1 | KEYBIND\n".toList ∧ '^' ∉ e.report source := by
  intro source e
  refine ⟨?_, by decide +kernel, by decide +kernel⟩
  rw [compile, compileWith, tokenize, tokenizeFrom_eq]
  decide +kernel

end Questionnaire
