import Questionnaire.Proofs.Breakoff
import Questionnaire.Proofs.Compile
import Questionnaire.Proofs.Lines

/-!
# Line endings

A template may be written with a carriage return before every line feed.  Between pairs the
carriage return is one more blank, or one more character of a comment; within a pair it is
one more blank beside the colon, or one more character of the value.  It takes up a column
that the line feed behind it gives back, so every place stays what it was.  Reading the
template with carriage returns is therefore reading it without them, but for the values, and
its lines are the same lines.

## Main definitions

* `Text.withReturns` — a carriage return before every line feed.
* `Pair.withReturns`, `Token.withReturns` — the same within a pair and a token.

## Main results

* `Position.after_withReturns` — places stay what they were.
* `Trivia.split_withReturns`, `Pair.split_withReturns` — what is read at the beginning of a
  text.
* `tokenizeFrom_withReturns` — reading a text.
* `Text.lines_withReturns` — its lines.
* `line_endings_do_not_matter` — **line endings do not matter.**
-/

namespace Questionnaire

open Text

/-! ### Texts -/

namespace Text

/-- The text with a carriage return before every line feed. -/
def withReturns (t : Text) : Text := t.flatMap fun c => if c = '\n' then ['\r', '\n'] else [c]

@[simp] theorem withReturns_nil : withReturns [] = [] := rfl

theorem withReturns_newline (t : Text) :
    withReturns ('\n' :: t) = '\r' :: '\n' :: withReturns t := rfl

theorem withReturns_cons {c : Char} (hc : c ≠ '\n') (t : Text) :
    withReturns (c :: t) = c :: withReturns t := by
  rw [withReturns, List.flatMap_cons, if_neg hc]
  rfl

theorem withReturns_append (t u : Text) :
    withReturns (t ++ u) = withReturns t ++ withReturns u := List.flatMap_append

theorem withReturns_of_not_mem {t : Text} (h : '\n' ∉ t) : withReturns t = t := by
  induction t with
  | nil => rfl
  | cons c t ih =>
    rw [List.mem_cons, not_or] at h
    rw [withReturns_cons (Ne.symm h.1), ih h.2]

theorem isEmpty_withReturns (t : Text) : (withReturns t).isEmpty = t.isEmpty := by
  cases t with
  | nil => rfl
  | cons c t =>
    by_cases hc : c = '\n'
    · rw [hc]
      rfl
    · rw [withReturns_cons hc]
      rfl

/-- What holds of a carriage return and of every character holds of every character with the
carriage returns. -/
theorem forall_mem_withReturns {P : Char → Prop} (hreturn : P '\r') {t : Text}
    (h : ∀ c ∈ t, P c) : ∀ c ∈ withReturns t, P c := by
  intro c hc
  obtain ⟨d, hd, hcd⟩ := List.mem_flatMap.mp hc
  split at hcd
  · next hnewline =>
    rcases List.mem_cons.mp hcd with rfl | hcd
    · exact hreturn
    · exact List.mem_singleton.mp hcd ▸ hnewline ▸ h d hd
  · exact List.mem_singleton.mp hcd ▸ h d hd

/-- The first character stays the first, unless it is a line feed. -/
theorem forall_head?_withReturns {P : Char → Prop} (hreturn : P '\n' → P '\r') {t : Text}
    (h : ∀ c ∈ t.head?, P c) : ∀ c ∈ (withReturns t).head?, P c := by
  cases t with
  | nil => exact h
  | cons d t =>
    by_cases hd : d = '\n'
    · subst hd
      intro c hc
      obtain rfl := Option.some.inj hc
      exact hreturn (h '\n' rfl)
    · rw [withReturns_cons hd]
      exact h

/-- The last character stays the last. -/
theorem getLast?_withReturns (t : Text) : (withReturns t).getLast? = t.getLast? := by
  rcases List.eq_nil_or_concat t with rfl | ⟨u, c, rfl⟩
  · rfl
  · rw [List.concat_eq_append, withReturns_append, List.getLast?_concat]
    by_cases hc : c = '\n'
    · rw [hc, withReturns_newline, withReturns_nil, List.append_cons, List.getLast?_concat]
    · rw [withReturns_cons hc, withReturns_nil, List.getLast?_concat]

end Text

/-- **Places stay what they were:** a line feed leads to the beginning of the next line from
any column. -/
theorem Position.after_withReturns (pos : Position) (t : Text) :
    pos.after (withReturns t) = pos.after t := by
  induction t generalizing pos with
  | nil => rfl
  | cons c t ih =>
    by_cases hc : c = '\n'
    · rw [hc, withReturns_newline, after_cons, after_cons, after_cons, ih]
      rfl
    · rw [withReturns_cons hc, after_cons, after_cons, ih]

/-! ### Trivia -/

theorem Trivia.splitFrom_withReturns (inComment : Bool) (t : Text) :
    splitFrom inComment (withReturns t) =
      (withReturns (splitFrom inComment t).1, withReturns (splitFrom inComment t).2) := by
  induction t generalizing inComment with
  | nil => rfl
  | cons c t ih =>
    by_cases hc : c = '\n'
    · -- the carriage return is skipped like the line feed, which ends a comment
      have hskip : ∀ r, splitFrom inComment ('\n' :: r) =
          ('\n' :: (splitFrom false r).1, (splitFrom false r).2) := by
        intro r
        cases inComment <;> rfl
      have hskip' : ∀ r, splitFrom inComment ('\r' :: r) =
          ('\r' :: (splitFrom inComment r).1, (splitFrom inComment r).2) := by
        intro r
        cases inComment <;> rfl
      rw [hc, withReturns_newline, hskip', hskip, hskip, ih, withReturns_newline]
    · rw [withReturns_cons hc, splitFrom_cons, splitFrom_cons, ih]
      split
      · rw [withReturns_cons hc]
      · rw [withReturns_nil, withReturns_cons hc]

theorem Trivia.split_withReturns (t : Text) :
    split (withReturns t) = (withReturns (split t).1, withReturns (split t).2) :=
  splitFrom_withReturns false t

/-! ### Pairs -/

theorem Value.escape_withReturns (v : Text) : escape (withReturns v) = withReturns (escape v) := by
  induction v with
  | nil => rfl
  | cons c v ih =>
    by_cases hnewline : c = '\n'
    · rw [hnewline, withReturns_newline, escape_cons (by decide), escape_cons (by decide), ih,
        escape_cons (by decide), withReturns_newline]
    · rw [withReturns_cons hnewline]
      by_cases hquote : c = '"'
      · rw [hquote, escape_quote, escape_quote, ih]
        rfl
      · rw [escape_cons hquote, escape_cons hquote, ih, withReturns_cons hnewline]

/-- A value is closed where it was, for a line feed does not tell an escaped quote from one
that is not. -/
theorem Value.close?_withReturns (t : Text) :
    close? (withReturns t) =
      (close? t).map fun (value, rest) => (withReturns value, withReturns rest) := by
  fun_induction close? t with
  | case1 => rfl
  | case2 r ih =>
    have htext : withReturns ('\\' :: '"' :: r) = '\\' :: '"' :: withReturns r := rfl
    rw [htext, close?_escaped, ih, Option.map_map, Option.map_map]
    rfl
  | case3 r => rfl
  | case4 c r hescape hquote ih =>
    by_cases hnewline : c = '\n'
    · subst hnewline
      have hreturn : '\r' ≠ '\\' := by decide
      have hfeed : '\n' ≠ '\\' := by decide
      rw [withReturns_newline, close?_plain (by decide) fun h => absurd h hreturn,
        close?_plain (by decide) fun h => absurd h hfeed, ih, Option.map_map, Option.map_map,
        Option.map_map]
      rfl
    · have hhead : c = '\\' → (withReturns r).head? ≠ some '"' := by
        intro hc hr
        have hne : ∀ d ∈ r.head?, d ≠ '"' := by
          rintro d hd rfl
          obtain ⟨u, hu⟩ := List.head?_eq_some_iff.mp hd
          exact hescape u hc hu
        exact forall_head?_withReturns (fun _ => by decide) hne _ hr rfl
      rw [withReturns_cons hnewline, close?_plain hquote hhead, ih, Option.map_map, Option.map_map]
      refine congrArg (Option.map · (close? r)) (funext fun p => ?_)
      exact Prod.ext (withReturns_cons hnewline p.1).symm rfl

namespace Pair

/-- The pair with a carriage return before every line feed. -/
def withReturns (p : Pair) : Pair :=
  ⟨p.key, Text.withReturns p.beforeColon, Text.withReturns p.afterColon, Text.withReturns p.value⟩

theorem withReturns_spelling (key : Key) : Text.withReturns key.spelling = key.spelling :=
  withReturns_of_not_mem fun h => absurd (Key.isKeyChar_of_mem_spelling h) (by decide)

theorem written_withReturns (p : Pair) : p.withReturns.written = Text.withReturns p.written := by
  simp only [written, withReturns, withReturns_append, withReturns_spelling,
    withReturns_cons (show ':' ≠ '\n' by decide), withReturns_cons (show '"' ≠ '\n' by decide),
    Value.escape_withReturns, withReturns_nil]

theorem WellFormed.withReturns {p : Pair} (h : p.WellFormed) : p.withReturns.WellFormed where
  beforeColon := forall_mem_withReturns (by decide) h.beforeColon
  afterColon := forall_mem_withReturns (by decide) h.afterColon
  value := by
    rw [Pair.withReturns, getLast?_withReturns]
    exact h.value

/-- The reason for which no pair begins at a text stays the same. -/
theorem Misread.withReturns {t read : Text} {fault : PairFault} (h : Misread t read fault) :
    Misread (Text.withReturns t) (Text.withReturns read) fault := by
  have hblank : ∀ {blanks : Text}, (∀ c ∈ blanks, isBlank c = true) →
      ∀ c ∈ Text.withReturns blanks, isBlank c = true := forall_mem_withReturns (by decide)
  have hcolon := withReturns_cons (show ':' ≠ '\n' by decide)
  have hquote := withReturns_cons (show '"' ≠ '\n' by decide)
  cases h with
  | @unknownKey word after hword hafter hnone =>
    have hplain : Text.withReturns word = word :=
      withReturns_of_not_mem fun hmem => absurd (hword _ hmem) (by decide)
    rw [withReturns_append, hplain]
    exact .unknownKey hword (forall_head?_withReturns (fun _ => by decide) hafter) hnone
  | @missingColon key blanks after hblanks hafter hend =>
    rw [withReturns_append, withReturns_append, withReturns_append, withReturns_spelling]
    refine .missingColon (hblank hblanks)
      (forall_head?_withReturns (fun h => absurd h.1 (by decide)) hafter) ?_
    rw [← withReturns_append]
    exact forall_head?_withReturns (fun _ => by decide) hend
  | @missingQuote key blanks blanks' after hblanks hblanks' hafter =>
    simp only [withReturns_append, hcolon, withReturns_spelling]
    exact .missingQuote (hblank hblanks) (hblank hblanks')
      (forall_head?_withReturns (fun h => absurd h.1 (by decide)) hafter)
  | @unterminated key blanks blanks' after hblanks hblanks' hafter =>
    simp only [withReturns_append, hcolon, hquote, withReturns_spelling]
    refine .unterminated (hblank hblanks) (hblank hblanks') ?_
    rw [← Value.close?_eq_none_iff] at hafter ⊢
    rw [Value.close?_withReturns, hafter, Option.map_none]

/-- The pair at the beginning of a text, or the reason for which there is none. -/
theorem split_withReturns (t : Text) :
    split (Text.withReturns t) =
      ((split t).map fun (pair, rest) => (pair.withReturns, Text.withReturns rest)).mapError
        fun (read, fault) => (Text.withReturns read, fault) := by
  cases h : split t with
  | error refusal =>
    obtain ⟨read, fault⟩ := refusal
    exact (misread_iff.mpr h).withReturns.split_eq
  | ok found =>
    obtain ⟨pair, rest⟩ := found
    rw [← written_append h, withReturns_append, ← written_withReturns]
    exact split_written (wellFormed_of_split h).withReturns _

end Pair

/-! ### Tokens -/

/-- The token with a carriage return before every line feed of its value. -/
def Token.withReturns (token : Token) : Token :=
  { token with value := Text.withReturns token.value }

/-- **Reading a text with carriage returns** gives the tokens with carriage returns, at the
same places, or the same error. -/
theorem tokenizeFrom_withReturns (pos : Position) (t : Text) :
    tokenizeFrom pos (withReturns t) =
      (tokenizeFrom pos t).map fun tokens => tokens.map Token.withReturns := by
  -- Each pair is read off the text, which gets shorter.
  induction hm : t.length using Nat.strong_induction_on generalizing pos t with
  | _ m ih =>
    subst hm
    rw [tokenizeFrom_eq, tokenizeFrom_eq pos t, Trivia.split_withReturns, isEmpty_withReturns,
      Position.after_withReturns]
    by_cases hrest : (Trivia.split t).2.isEmpty = true
    · rw [if_pos hrest, if_pos hrest]
      rfl
    · rw [if_neg hrest, if_neg hrest, Pair.split_withReturns]
      cases hpair : Pair.split (Trivia.split t).2 with
      | error refusal =>
        obtain ⟨read, fault⟩ := refusal
        simp only [Except.map, Except.mapError, Position.after_withReturns]
      | ok found =>
        obtain ⟨pair, rest⟩ := found
        have hlt : rest.length < t.length :=
          (Pair.length_lt_of_split hpair).trans_le (Trivia.length_split_le t)
        simp only [Except.map, Except.mapError, Pair.written_withReturns,
          Position.after_withReturns, ih _ hlt _ rest rfl]
        cases tokenizeFrom ((pos.after (Trivia.split t).1).after pair.written) rest <;> rfl

/-! ### Lines and reports -/

/-- Dropping a carriage return gives back the line that it was put behind. -/
theorem Text.dropReturn_concat (u : Text) : dropReturn (u ++ ['\r']) = u := by
  rw [dropReturn, List.getLast?_concat, if_pos rfl, List.dropLast_concat]

theorem Text.dropReturn_of_not_mem {u : Text} (h : '\r' ∉ u) : dropReturn u = u :=
  if_neg fun hlast => h (List.mem_of_getLast? hlast)

theorem Text.withReturns_unlines {closed : List Text} (h : ∀ u ∈ closed, '\n' ∉ u) :
    withReturns (unlines closed) = unlines (closed.map (· ++ ['\r'])) := by
  induction closed with
  | nil => rfl
  | cons u closed ih =>
    rw [List.forall_mem_cons] at h
    rw [unlines_cons, withReturns_append, withReturns_of_not_mem h.1, withReturns_newline, ih h.2,
      List.map_cons, unlines_cons, List.append_assoc]
    rfl

/-- **The lines stay what they were.** -/
theorem Text.lines_withReturns {t : Text} (h : '\r' ∉ t) : lines (withReturns t) = lines t := by
  obtain ⟨closed, last, rfl, hclosed, hlast⟩ := exists_unlines_append t
  have hreturn : ∀ u ∈ closed, '\r' ∉ u := by
    intro u hu hmem
    have hunlines : '\r' ∈ unlines closed :=
      List.mem_flatMap.mpr ⟨u, hu, List.mem_append_left _ hmem⟩
    exact h (List.mem_append_left _ hunlines)
  have hclosed' : ∀ u ∈ closed.map (· ++ ['\r']), '\n' ∉ u := by
    refine List.forall_mem_map.mpr fun u hu hmem => ?_
    rcases List.mem_append.mp hmem with hmem | hmem
    · exact hclosed u hu hmem
    · exact absurd hmem (by decide)
  rw [withReturns_append, withReturns_unlines hclosed, withReturns_of_not_mem hlast,
    lines_unlines_append hclosed', lines_unlines_append hclosed, List.map_map]
  refine congrArg (· ++ lines last) (List.map_congr_left fun u hu => ?_)
  exact (dropReturn_concat u).trans (dropReturn_of_not_mem (hreturn u hu)).symm

/-- So an error is shown alike. -/
theorem TemplateError.report_withReturns (e : TemplateError) {source : Text}
    (h : '\r' ∉ source) : e.report (withReturns source) = e.report source := by
  rw [report, report, excerpt, excerpt, lines_withReturns h]

/-! ### The theorem -/

/-- Tokens without line feeds in their values stay what they were. -/
theorem Token.map_withReturns {tokens : List Token} (h : ∀ token ∈ tokens, '\n' ∉ token.value) :
    tokens.map withReturns = tokens := by
  refine (List.map_congr_left fun token htoken => ?_).trans (List.map_id tokens)
  rw [withReturns, withReturns_of_not_mem (h token htoken)]
  rfl

/-- **Line endings do not matter.**  A template without carriage returns is read as it is
with a carriage return before every line feed: its tokens have the same keys at the same
places, and a carriage return before every line feed of their values; or both are refused
with the same error, which is shown in the same report.  Where no value has a line feed,
both are compiled to the same configuration or refused with the same error. -/
theorem line_endings_do_not_matter {source : Text} (h : '\r' ∉ source) :
    ((∃ tokens, tokenize (withReturns source) = .ok tokens) ↔
      ∃ tokens, tokenize source = .ok tokens) ∧
    (∀ tokens, tokenize source = .ok tokens → tokenize (withReturns source) =
      .ok (tokens.map fun token => { token with value := withReturns token.value })) ∧
    (∀ e, tokenize source = .error e → tokenize (withReturns source) = .error e) ∧
    (∀ e : TemplateError, e.report (withReturns source) = e.report source) ∧
    ((∀ tokens, tokenize source = .ok tokens → ∀ token ∈ tokens, '\n' ∉ token.value) →
      ∀ settings, compileWith settings (withReturns source) = compileWith settings source) := by
  have hread : tokenize (withReturns source) =
      (tokenize source).map fun tokens => tokens.map Token.withReturns :=
    tokenizeFrom_withReturns .start source
  refine ⟨?_, fun tokens htokens => ?_, fun e he => ?_,
    fun e => e.report_withReturns h, fun hvalues settings => ?_⟩
  · rw [hread]
    cases tokenize source with
    | ok tokens => exact iff_of_true ⟨_, rfl⟩ ⟨_, rfl⟩
    | error e => exact iff_of_false (fun ⟨_, h⟩ => nomatch h) fun ⟨_, h⟩ => nomatch h
  · rw [hread, htokens]
    rfl
  · rw [hread, he]
    rfl
  · have hsame : tokenize (withReturns source) = tokenize source := by
      rw [hread]
      cases htokens : tokenize source with
      | ok tokens => exact congrArg Except.ok (Token.map_withReturns (hvalues tokens htokens))
      | error e => rfl
    rw [compileWith, compileWith, hsame]

/-- A value with a backslash before a line feed; a key that is cut off by the end of its line,
behind a comment; and a template whose values have no line feed. -/
theorem line_endings_do_not_matter_cases :
    let quoted := "KEYBIND\n:\"k\\\nl\"\n".toList
    let broken := "# c\nKEYBIND\n".toList
    let plain := "#\nKEYBIND:\"k\"\n".toList
    let e : TemplateError := ⟨⟨3, 1⟩, .reading (.missingColon (.setting .keybind))⟩
    tokenize (withReturns quoted) = .ok [⟨⟨1, 1⟩, .setting .keybind, "k\\\r\nl".toList⟩] ∧
      tokenize (withReturns broken) = .error e ∧
      e.report (withReturns broken) = e.report broken ∧
      compile (withReturns plain) = compile plain := by
  intro quoted broken plain e
  have hquoted : tokenize quoted = .ok [⟨⟨1, 1⟩, .setting .keybind, "k\\\nl".toList⟩] :=
    tokenizeFrom_layout [⟨[], ⟨.setting .keybind, ['\n'], [], "k\\\nl".toList⟩, .nil,
      List.forall_mem_singleton.mpr rfl, by simp, by decide⟩] [] (.closed (.blank (by decide) .nil))
  have hbroken : tokenize broken = .error e := by
    rw [tokenize, tokenizeFrom_eq]
    decide +kernel
  have hplain : tokenize plain = .ok [⟨⟨2, 1⟩, .setting .keybind, ['k']⟩] :=
    tokenizeFrom_layout
      [{ Block.compact (.setting .keybind) ['k'] (by decide) with
        trivia := ['#', '\n'], closed := @Trivia.Closed.comment [] _ (by decide) .nil }] []
      (.closed (.blank (by decide) .nil))
  have hvalues : ∀ tokens, tokenize plain = .ok tokens →
      ∀ token ∈ tokens, '\n' ∉ token.value := by
    intro tokens htokens
    obtain rfl := Except.ok.inj (hplain.symm.trans htokens)
    decide
  exact ⟨(line_endings_do_not_matter (by decide)).2.1 _ hquoted,
    (line_endings_do_not_matter (by decide)).2.2.1 e hbroken,
    (line_endings_do_not_matter (by decide)).2.2.2.1 e,
    (line_endings_do_not_matter (by decide)).2.2.2.2 hvalues .initial⟩

end Questionnaire
