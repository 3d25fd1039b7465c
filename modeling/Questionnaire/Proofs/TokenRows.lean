import Questionnaire.CommandLine.Run
import Questionnaire.Proofs.Lines
import Questionnaire.Proofs.Tokenize
import Questionnaire.Proofs.VisibleText

/-!
# Token lists tell the tokens

A token list has a row for each token.  No part of a row has a line feed, so the line
feeds close the rows, and each part of a row ends where a colon, a space or a quote
follows, so the row tells its token.

## Main results

* `Token.row_injective` — **a row tells its token.**
* `splitOn_tokenList`, `tokenList_injective` — a token list tells its rows and its tokens.
* `Command.tokens_report_tells_tokens` — the same for the report of a command.
-/

namespace Questionnaire

open Text

/-! ### Positions -/

namespace Position

/-- A written position, up to what is no digit, tells the position. -/
theorem write_append_inj {p q : Position} {r s : Text} (hr : ∀ c ∈ r.head?, c.isDigit = false)
    (hs : ∀ c ∈ s.head?, c.isDigit = false) (h : p.write ++ r = q.write ++ s) :
    p = q ∧ r = s := by
  obtain ⟨pline, pcolumn⟩ := p
  obtain ⟨qline, qcolumn⟩ := q
  simp only [write, List.append_assoc, List.singleton_append] at h
  have hcolon : ∀ t : Text, ∀ c ∈ (':' :: t).head?, c.isDigit = false := by
    rintro t c ⟨⟩
    rfl
  obtain ⟨rfl, hrest⟩ := Numeral.write_append_inj (hcolon _) (hcolon _) h
  obtain ⟨rfl, hrs⟩ := Numeral.write_append_inj hr hs (List.cons.inj hrest).2
  exact ⟨rfl, hrs⟩

theorem newline_not_mem_write (p : Position) : '\n' ∉ p.write := by
  simp [write, Numeral.newline_not_mem_write]

end Position

/-! ### Rows -/

namespace Token

theorem row_eq (token : Token) :
    token.row = token.position.write ++
      ' ' :: (token.key.spelling ++ ' ' :: quoted token.value) := by
  simp [row]

/-- **A row tells its token.** -/
theorem row_injective : Function.Injective row := by
  intro a b h
  obtain ⟨aposition, akey, avalue⟩ := a
  obtain ⟨bposition, bkey, bvalue⟩ := b
  rw [row_eq, row_eq] at h
  have hspace : ∀ {p : Char → Bool}, p ' ' = false → ∀ t : Text,
      ∀ c ∈ (' ' :: t).head?, p c = false := by
    rintro p hp t c ⟨⟩
    exact hp
  -- the space ends the digits of the column, and then the spelling of the key
  obtain ⟨rfl, hrest⟩ := Position.write_append_inj (hspace rfl _) (hspace rfl _) h
  obtain ⟨hspelling, hquoted⟩ := append_inj_of_head? (fun _ => Key.isKeyChar_of_mem_spelling)
    (fun _ => Key.isKeyChar_of_mem_spelling) (hspace (by decide) _) (hspace (by decide) _)
    (List.cons.inj hrest).2
  have hkey : some akey = some bkey := by
    rw [← Key.ofSpelling?_spelling akey, hspelling, Key.ofSpelling?_spelling]
  obtain rfl := Option.some.inj hkey
  obtain ⟨rfl, -⟩ := quoted_append_inj (congrArg (· ++ []) (List.cons.inj hquoted).2)
  rfl

theorem newline_not_mem_row (token : Token) : '\n' ∉ token.row := by
  have hspelling : '\n' ∉ token.key.spelling := fun h =>
    absurd (Key.isKeyChar_of_mem_spelling h) (by decide)
  simp [row, hspelling, token.position.newline_not_mem_write, newline_not_mem_quoted]

theorem newline_not_mem_of_mem_rows (tokens : List Token) :
    ∀ row ∈ tokens.map Token.row, '\n' ∉ row :=
  List.forall_mem_map.mpr fun token _ => token.newline_not_mem_row

end Token

/-! ### Token lists -/

/-- The line feeds of a token list close its rows. -/
theorem splitOn_tokenList (tokens : List Token) :
    (tokenList tokens).splitOn '\n' = tokens.map Token.row ++ [[]] :=
  splitOn_unlines (Token.newline_not_mem_of_mem_rows tokens)

theorem count_tokenList (tokens : List Token) : (tokenList tokens).count '\n' = tokens.length := by
  rw [tokenList, count_unlines (Token.newline_not_mem_of_mem_rows tokens), List.length_map]

/-- A token list tells its tokens. -/
theorem tokenList_injective : Function.Injective tokenList := by
  intro ts us h
  have hsplit := congrArg (List.splitOn '\n') h
  rw [splitOn_tokenList, splitOn_tokenList] at hsplit
  exact List.map_injective_iff.mpr Token.row_injective (List.append_cancel_right hsplit)

/-- **The report of the tokens of a template** has one closed row for each of them, in order,
whatever their values are, and two templates have one report exactly if they have one list
of tokens. -/
theorem Command.tokens_report_tells_tokens {source source' : Text} {ts us : List Token}
    (h : tokenize source = .ok ts) (h' : tokenize source' = .ok us) :
    ∃ report report', tokens.run source = .ok report ∧ tokens.run source' = .ok report' ∧
      report = unlines (ts.map Token.row) ∧ report.splitOn '\n' = ts.map Token.row ++ [[]] ∧
      report.count '\n' = ts.length ∧ (report = report' ↔ ts = us) := by
  refine ⟨tokenList ts, tokenList us, ?_, ?_, rfl, splitOn_tokenList ts, count_tokenList ts,
    tokenList_injective.eq_iff⟩
  · rw [run, h]
    rfl
  · rw [run, h']
    rfl

/-- A line feed in a value is told from a backslash with a letter. -/
theorem Command.tokens_report_tells_tokens_newline :
    let source := "KEYBIND:\"\\\"\n\u0301n\"".toList
    let source' := "KEYBIND:\"\\\"\\n\u0301n\"".toList
    let token : Token := ⟨⟨1, 1⟩, .setting .keybind, ['"', '\n', '\u0301', 'n']⟩
    let token' : Token := ⟨⟨1, 1⟩, .setting .keybind, ['"', '\\', 'n', '\u0301', 'n']⟩
    tokenize source = .ok [token] ∧ tokenize source' = .ok [token'] ∧
      ∃ report report', tokens.run source = .ok report ∧ tokens.run source' = .ok report' ∧
        report.count '\n' = 1 ∧ report ≠ report' := by
  intro source source' token token'
  have hfirst : tokenize source = .ok [token] :=
    tokenize_compact (.setting .keybind) token.value (by decide)
  have hsecond : tokenize source' = .ok [token'] :=
    tokenize_compact (.setting .keybind) token'.value (by decide)
  obtain ⟨report, report', hrun, hrun', -, -, hcount, hiff⟩ :=
    tokens_report_tells_tokens hfirst hsecond
  exact ⟨hfirst, hsecond, report, report', hrun, hrun', hcount, mt hiff.mp (by decide)⟩

end Questionnaire
