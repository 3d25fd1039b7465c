import Questionnaire.Proofs.Breakoff
import Questionnaire.Proofs.Compile

/-!
# Templates that are joined by a line feed

A template may be put behind another one, with a line feed between them.  Whatever the first
one ends in, a comment included, the line feed closes it, and reading the second one starts
over at the beginning of a line.  Reading looks at a position only to move it, so what is
read there is what is read at the start, a number of lines further down.  Hence an error of
the second template is reported before one that the first has when it is compiled, and no
continuation can repair or move the latter.

## Main definitions

* `Position.down`, `Token.down`, `TemplateError.down` — a place, a token and an error a number
  of lines further down.

## Main results

* `tokenizeFrom_down` — reading further down.
* `tokenizeFrom_closed_append` — trivia that is closed is passed over.
* `tokenize_append_newline` — reading goes on behind the line feed.
* `templates_concatenate` — **templates concatenate.**
-/

namespace Questionnaire

open Text

/-! ### Further down -/

namespace Position

/-- The same column a number of lines further down. -/
def down (n : Nat) (pos : Position) : Position := ⟨pos.line + n, pos.column⟩

theorem step_down (n : Nat) (pos : Position) (c : Char) :
    (pos.down n).step c = (pos.step c).down n := by
  unfold step down
  split
  · simp only [mk.injEq, and_true]
    omega
  · rfl

/-- Moving over a text leads to the same column from further down. -/
theorem after_down (n : Nat) (pos : Position) (t : Text) :
    (pos.down n).after t = (pos.after t).down n := by
  induction t generalizing pos with
  | nil => rfl
  | cons c t ih => rw [after_cons, step_down, ih, after_cons]

/-- Behind a line feed a line begins, one further down than all lines before. -/
theorem behind_concat_newline (t : Text) :
    behind (t ++ ['\n']) = start.down (1 + t.count '\n') := by
  simp only [behind, down, start, mk.injEq]
  constructor
  · simp
    omega
  · simp

end Position

/-- The token a number of lines further down. -/
def Token.down (n : Nat) (token : Token) : Token :=
  { token with position := token.position.down n }

/-- The error a number of lines further down. -/
def TemplateError.down (n : Nat) (e : TemplateError) : TemplateError :=
  { e with position := e.position.down n }

/-- **Reading further down** gives what reading gives, further down. -/
theorem tokenizeFrom_down (n : Nat) (pos : Position) (t : Text) :
    tokenizeFrom (pos.down n) t =
      ((tokenizeFrom pos t).map fun tokens => tokens.map (Token.down n)).mapError
        (TemplateError.down n) := by
  -- Each pair is read off the text, which gets shorter.
  induction hm : t.length using Nat.strong_induction_on generalizing pos t with
  | _ m ih =>
    subst hm
    rw [tokenizeFrom_eq, tokenizeFrom_eq pos t, Position.after_down]
    by_cases hrest : (Trivia.split t).2.isEmpty = true
    · rw [if_pos hrest, if_pos hrest]
      rfl
    · rw [if_neg hrest, if_neg hrest]
      cases hpair : Pair.split (Trivia.split t).2 with
      | error refusal =>
        obtain ⟨read, fault⟩ := refusal
        simp only [Position.after_down]
        rfl
      | ok found =>
        obtain ⟨pair, rest⟩ := found
        have hlt : rest.length < t.length :=
          (Pair.length_lt_of_split hpair).trans_le (Trivia.length_split_le t)
        simp only [Position.after_down, ih _ hlt _ rest rfl]
        cases tokenizeFrom ((pos.after (Trivia.split t).1).after pair.written) rest <;> rfl

/-! ### The seam -/

/-- A line feed closes trivia, a comment that lacked it included. -/
theorem Trivia.Final.closed_concat_newline {t : Text} (h : Final t) : Closed (t ++ ['\n']) := by
  cases h with
  | closed h => exact h.append (.blank (by decide) .nil)
  | comment h hbody =>
    rw [List.append_assoc]
    exact h.append (.comment hbody .nil)

/-- Trivia that is closed is passed over, and reading starts over behind it. -/
theorem tokenizeFrom_closed_append {u : Text} (hu : Trivia.Closed u) (pos : Position)
    (t : Text) : tokenizeFrom pos (u ++ t) = tokenizeFrom (pos.after u) t := by
  rw [tokenizeFrom_eq, tokenizeFrom_eq (pos.after u), Trivia.split_closed_append hu,
    Position.after_append]

/-- **Behind a template and a line feed reading goes on** at the beginning of a line. -/
theorem tokenize_append_newline {a : Text} {tokens : List Token} (h : tokenize a = .ok tokens)
    (b : Text) : tokenize (a ++ '\n' :: b) =
      (tokenizeFrom (Position.start.down (1 + a.count '\n')) b).map (tokens ++ ·) := by
  rw [tokenize_eq_behind] at h
  obtain ⟨blocks, last, hlast, rfl, rfl⟩ := exists_blocks_of_tokenizeFrom h
  have hseam : blocks.flatMap Block.written ++ last ++ '\n' :: b =
      blocks.flatMap Block.written ++ ((last ++ ['\n']) ++ b) := by
    simp
  rw [hseam, tokenize_eq_behind, tokenizeFrom_blocks, List.nil_append,
    tokenizeFrom_closed_append hlast.closed_concat_newline, Position.behind_after,
    ← List.append_assoc, Position.behind_concat_newline]

theorem tokenize_append_newline_of_ok {a b : Text} {tokens tokens' : List Token}
    (ha : tokenize a = .ok tokens) (hb : tokenize b = .ok tokens') :
    tokenize (a ++ '\n' :: b) =
      .ok (tokens ++ tokens'.map (Token.down (1 + a.count '\n'))) := by
  have hread : tokenizeFrom .start b = .ok tokens' := hb
  rw [tokenize_append_newline ha, tokenizeFrom_down, hread]
  rfl

theorem tokenize_append_newline_of_error {a b : Text} {tokens : List Token} {e : TemplateError}
    (ha : tokenize a = .ok tokens) (hb : tokenize b = .error e) :
    tokenize (a ++ '\n' :: b) = .error (e.down (1 + a.count '\n')) := by
  have hread : tokenizeFrom .start b = .error e := hb
  rw [tokenize_append_newline ha, tokenizeFrom_down, hread]
  rfl

/-! ### Compiling -/

/-- An error of another kind than those of reading is found when the tokens are compiled. -/
theorem exists_of_compileWith_error {settings : Settings} {source : Text} {e : TemplateError}
    (h : compileWith settings source = .error e) (he : e.cause.category ≠ .reading) :
    ∃ tokens, tokenize source = .ok tokens ∧
      Draft.feedAll tokens (.start settings) = .error e := by
  rcases compileWith_eq_error.mp h with hread | hfeed
  · obtain ⟨layout, rest, -, -, -, -, read, fault, -, rfl⟩ := exists_misread_of_tokenize_error hread
    exact absurd rfl he
  · exact hfeed

/-- Further tokens do not matter behind one that does not fit. -/
theorem compileWith_of_feedAll_error {settings : Settings} {source : Text}
    {tokens tokens' : List Token} {e : TemplateError}
    (hread : tokenize source = .ok (tokens ++ tokens'))
    (hfeed : Draft.feedAll tokens (.start settings) = .error e) :
    compileWith settings source = .error e := by
  refine compileWith_eq_error.mpr (Or.inr ⟨_, hread, ?_⟩)
  rw [Draft.feedAll, List.foldlM_append]
  exact Except.bind_eq_error.mpr (Or.inl hfeed)

/-! ### The theorem -/

/-- **Templates concatenate.**  Behind a template that can be read and a line feed, another one
is read as it is by itself: its tokens follow those of the first one with their lines
further down, one more than the first one has line feeds, and their columns as they are; if
it cannot be read, its error is reported, moved likewise.  So an error that the first one
has when it is compiled stays the same whatever is put behind it, unless that cannot be
read; then the error of reading is reported instead. -/
theorem templates_concatenate (a b : Text) :
    (∀ tokens, tokenize a = .ok tokens →
      (∀ tokens', tokenize b = .ok tokens' → tokenize (a ++ '\n' :: b) =
        .ok (tokens ++ tokens'.map (Token.down (1 + a.count '\n')))) ∧
      ∀ e, tokenize b = .error e →
        tokenize (a ++ '\n' :: b) = .error (e.down (1 + a.count '\n'))) ∧
    ∀ settings e, compileWith settings a = .error e → e.cause.category ≠ .reading →
      (∀ tokens', tokenize b = .ok tokens' → compileWith settings (a ++ '\n' :: b) = .error e) ∧
      ∀ e', tokenize b = .error e' →
        compileWith settings (a ++ '\n' :: b) = .error (e'.down (1 + a.count '\n')) := by
  refine ⟨fun tokens ha => ⟨fun tokens' hb => ?_, fun e hb => ?_⟩, ?_⟩
  · exact tokenize_append_newline_of_ok ha hb
  · exact tokenize_append_newline_of_error ha hb
  · intro settings e hcompile hcategory
    obtain ⟨tokens, ha, hfeed⟩ := exists_of_compileWith_error hcompile hcategory
    constructor
    · intro tokens' hb
      exact compileWith_of_feedAll_error (tokenize_append_newline_of_ok ha hb) hfeed
    · intro e' hb
      exact compileWith_eq_error.mpr (Or.inl (tokenize_append_newline_of_error ha hb))

/-- A template that ends in a comment without a line feed and has an option where none may
stand; a template that can be read is put behind it, and one that cannot. -/
theorem templates_concatenate_comment :
    let a := "KEYBIND:\"k\nl\"\nOPTION_NAME:\"x\"# c".toList
    let e : TemplateError := ⟨⟨3, 1⟩, .outline .optionName .strayOption⟩
    let good := " ALIAS_TAG_TO:\"y\"".toList
    let bad := "\n OPTION".toList
    let e' : TemplateError := ⟨⟨5, 2⟩, .reading (.unknownKey "OPTION".toList)⟩
    compileWith .initial a = .error e ∧
      tokenize (a ++ '\n' :: good) = .ok
        [⟨⟨1, 1⟩, .setting .keybind, "k\nl".toList⟩, ⟨⟨3, 1⟩, .outline .optionName, ['x']⟩,
          ⟨⟨4, 2⟩, .outline .aliasTo, ['y']⟩] ∧
      tokenize (a ++ '\n' :: bad) = .error e' ∧
      compileWith .initial (a ++ '\n' :: good) = .error e ∧
      compileWith .initial (a ++ '\n' :: bad) = .error e' := by
  intro a e good bad e'
  let blocks : List Block :=
    [.compact (.setting .keybind) "k\nl".toList (by decide),
      { Block.compact (.outline .optionName) ['x'] (by decide) with
        trivia := ['\n'], closed := .blank (by decide) .nil }]
  let tokens : List Token :=
    [⟨⟨1, 1⟩, .setting .keybind, "k\nl".toList⟩, ⟨⟨3, 1⟩, .outline .optionName, ['x']⟩]
  have ha : tokenize a = .ok tokens := by
    have hlayout := tokenizeFrom_layout blocks []
      (@Trivia.Final.comment [] [' ', 'c'] .nil (by decide))
    have htext : a = blocks.flatMap Block.written ++ "# c".toList := by decide
    have htokens : tokens = Block.tokensBehind [] blocks := by decide
    rw [htext, htokens]
    exact hlayout
  have hgood : tokenize good = .ok [⟨⟨1, 2⟩, .outline .aliasTo, ['y']⟩] := by
    have hblocks := tokenize_blocks
      [{ Block.compact (.outline .aliasTo) ['y'] (by decide) with
        trivia := [' '], closed := .blank (by decide) .nil }]
    exact hblocks
  have hbad : tokenize bad = .error ⟨⟨2, 2⟩, .reading (.unknownKey "OPTION".toList)⟩ := by
    rw [tokenize, tokenizeFrom_eq]
    decide +kernel
  have hcompile : compileWith .initial a = .error e := by
    rw [compileWith, ha]
    decide +kernel
  have hcategory : e.cause.category ≠ .reading := by decide
  obtain ⟨hread, herror⟩ := templates_concatenate a good
  obtain ⟨hread', herror'⟩ := templates_concatenate a bad
  exact ⟨hcompile, (hread tokens ha).1 _ hgood, (hread' tokens ha).2 _ hbad,
    (herror .initial e hcompile hcategory).1 _ hgood,
    (herror' .initial e hcompile hcategory).2 _ hbad⟩

end Questionnaire
