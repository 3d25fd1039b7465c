import Questionnaire.Proofs.Layout

/-!
# Tokenizing reads layouts

Tokenizing accepts a text if and only if the text is laid out as a template, and
then gives the tokens of the layout.  A text has one list of tokens, so all of
its layouts agree on them.

## Main results

* `tokenizeFrom_eq` — one step of tokenizing, on a text whose trivia and pair have
  been split off.
* `exists_blocks_append` — every text is made of blocks, trivia and a rest at which no
  pair begins.
* `tokenizeFrom_layout`, `exists_blocks_of_tokenizeFrom` — the two directions, behind any
  text.
* `tokenize_blocks`, `tokenize_compact` — a text of nothing but blocks, and a pair alone.
* `tokenize_decodes_layouts` — **tokenizing accepts the layouts, and decodes them.**
-/

namespace Questionnaire

open Text

/-! ### One step -/

/-- The trivia goes first; then the text ends, or a pair follows and reading goes on
behind it, or there is an error where no pair could be read. -/
theorem tokenizeFrom_eq (pos : Position) (t : Text) :
    tokenizeFrom pos t =
      if (Trivia.split t).2.isEmpty then .ok []
      else match Pair.split (Trivia.split t).2 with
        | .error (before, fault) =>
          .error ⟨(pos.after (Trivia.split t).1).after before, .reading fault⟩
        | .ok (pair, rest) =>
          (tokenizeFrom ((pos.after (Trivia.split t).1).after pair.written) rest).map
            (⟨pos.after (Trivia.split t).1, pair.key, pair.value⟩ :: ·) := by
  rw [tokenizeFrom]
  split
  · rfl
  · split <;> next h => rw [h]

theorem tokenizeFrom_final (pos : Position) {t : Text} (ht : Trivia.Final t) :
    tokenizeFrom pos t = .ok [] := by
  rw [tokenizeFrom_eq, Trivia.split_of_final ht]
  rfl

/-- A block gives its token, and reading goes on behind it. -/
theorem tokenizeFrom_block (before : Text) (b : Block) (t : Text) :
    tokenizeFrom (.behind before) (b.written ++ t) =
      (tokenizeFrom (.behind (before ++ b.written)) t).map
        (⟨.behind (before ++ b.trivia), b.pair.key, b.pair.value⟩ :: ·) := by
  have hsplit : Trivia.split (b.written ++ t) = (b.trivia, b.pair.written ++ t) := by
    rw [Block.written, List.append_assoc]
    exact Trivia.split_of_closed b.closed (b.pair.stops_written t)
  have hne : (b.pair.written ++ t).isEmpty = false := by
    simp [b.pair.written_ne_nil]
  rw [tokenizeFrom_eq, hsplit]
  simp only [hne, Bool.false_eq_true, if_false, Pair.split_written b.wellFormed,
    Position.behind_after, Block.written, List.append_assoc]

/-- Reading fails behind the trivia at which no pair begins. -/
theorem tokenizeFrom_stuck (before : Text) {trivia rest read : Text} {fault : PairFault}
    (htrivia : Trivia.Closed trivia) (hstops : Trivia.Stops rest) (hrest : rest ≠ [])
    (hpair : Pair.split rest = .error (read, fault)) :
    tokenizeFrom (.behind before) (trivia ++ rest) =
      .error ⟨.behind (before ++ trivia ++ read), .reading fault⟩ := by
  have hne : rest.isEmpty = false := by simpa using hrest
  rw [tokenizeFrom_eq, Trivia.split_of_closed htrivia hstops]
  simp only [hne, Bool.false_eq_true, if_false, hpair, Position.behind_after]

/-- Blocks give their tokens, and reading goes on behind them. -/
theorem tokenizeFrom_blocks (blocks : List Block) (before t : Text) :
    tokenizeFrom (.behind before) (blocks.flatMap Block.written ++ t) =
      (tokenizeFrom (.behind (before ++ blocks.flatMap Block.written)) t).map
        (Block.tokensBehind before blocks ++ ·) := by
  induction blocks generalizing before with
  | nil =>
    rw [List.flatMap_nil, List.nil_append, List.append_nil]
    cases tokenizeFrom (.behind before) t <;> rfl
  | cons b blocks ih =>
    rw [List.flatMap_cons, List.append_assoc, tokenizeFrom_block, ih, List.append_assoc]
    cases tokenizeFrom (.behind (before ++ (b.written ++ blocks.flatMap Block.written))) t <;> rfl

/-! ### Both directions -/

/-- A layout is read as its tokens. -/
theorem tokenizeFrom_layout (blocks : List Block) (before : Text) {last : Text}
    (hlast : Trivia.Final last) :
    tokenizeFrom (.behind before) (blocks.flatMap Block.written ++ last) =
      .ok (Block.tokensBehind before blocks) := by
  rw [tokenizeFrom_blocks, tokenizeFrom_final _ hlast]
  exact congrArg Except.ok (List.append_nil _)

/-- Every text is made of blocks, of trivia, and of a rest at which no pair begins. -/
theorem exists_blocks_append (t : Text) :
    ∃ (blocks : List Block) (trivia rest : Text),
      t = blocks.flatMap Block.written ++ (trivia ++ rest) ∧
      Trivia.Final trivia ∧ (rest ≠ [] → Trivia.Closed trivia) ∧ Trivia.Stops rest ∧
      (rest ≠ [] → ∃ read fault, Pair.split rest = .error (read, fault)) := by
  -- Each block is taken off the text, which gets shorter.
  induction hn : t.length using Nat.strong_induction_on generalizing t with
  | _ n ih =>
    subst hn
    obtain ⟨hfinal, hclosed, hstops⟩ := Trivia.split_form t
    have htext := Trivia.split_append t
    cases hpair : Pair.split (Trivia.split t).2 with
    | error refusal =>
      exact ⟨[], _, _, htext.symm, hfinal, hclosed, hstops, fun _ => ⟨_, _, hpair⟩⟩
    | ok found =>
      obtain ⟨pair, rest⟩ := found
      have hne : (Trivia.split t).2 ≠ [] := by
        rw [← Pair.written_append hpair]
        simp [pair.written_ne_nil]
      let b : Block :=
        ⟨(Trivia.split t).1, pair, hclosed hne, Pair.wellFormed_of_split hpair⟩
      have hb : b.written ++ rest = t := by
        rw [Block.written, List.append_assoc, Pair.written_append hpair, htext]
      have hlt : rest.length < t.length :=
        (Pair.length_lt_of_split hpair).trans_le (Trivia.length_split_le t)
      obtain ⟨blocks, trivia, stuck, rfl, hform⟩ := ih _ hlt rest rfl
      refine ⟨b :: blocks, trivia, stuck, ?_, hform⟩
      rw [List.flatMap_cons, List.append_assoc, hb]

/-- A text that is read has a layout with the tokens that were read. -/
theorem exists_blocks_of_tokenizeFrom {before t : Text} {tokens : List Token}
    (h : tokenizeFrom (.behind before) t = .ok tokens) :
    ∃ blocks last, Trivia.Final last ∧ t = blocks.flatMap Block.written ++ last ∧
      tokens = Block.tokensBehind before blocks := by
  obtain ⟨blocks, trivia, rest, rfl, hfinal, hclosed, hstops, hstuck⟩ := exists_blocks_append t
  by_cases hrest : rest = []
  · subst hrest
    rw [List.append_nil, tokenizeFrom_layout blocks before hfinal] at h
    exact ⟨blocks, trivia, hfinal, by rw [List.append_nil], (Except.ok.inj h).symm⟩
  · obtain ⟨read, fault, hpair⟩ := hstuck hrest
    rw [tokenizeFrom_blocks, tokenizeFrom_stuck _ (hclosed hrest) hstops hrest hpair] at h
    cases h

theorem tokenize_eq_behind (t : Text) : tokenize t = tokenizeFrom (.behind []) t := rfl

/-- A text that is nothing but blocks is read as their tokens. -/
theorem tokenize_blocks (blocks : List Block) :
    tokenize (blocks.flatMap Block.written) = .ok (Block.tokensBehind [] blocks) := by
  have hlayout := tokenizeFrom_layout blocks [] (.closed .nil)
  rw [List.append_nil] at hlayout
  exact hlayout

/-- A pair alone is read as one token, in the first place. -/
theorem tokenize_compact (key : Key) (value : Text) (h : value.getLast? ≠ some '\\') :
    tokenize (Block.compact key value h).written = .ok [⟨⟨1, 1⟩, key, value⟩] := by
  rw [← List.flatMap_singleton Block.written (Block.compact key value h)]
  exact tokenize_blocks [Block.compact key value h]

/-! ### Places of tokens -/

/-- Tokens stand no earlier than the text that they stand behind. -/
theorem Block.tokensBehind_from (blocks : List Block) (before : Text) :
    ∀ token ∈ tokensBehind before blocks,
      Position.behind before = token.position ∨
        (Position.behind before).Precedes token.position := by
  induction blocks generalizing before with
  | nil => intro token h; exact absurd h List.not_mem_nil
  | cons b blocks ih =>
    intro token h
    have hmove : ∀ u : Text, Position.behind before = Position.behind (before ++ u) ∨
        (Position.behind before).Precedes (Position.behind (before ++ u)) := by
      intro u
      rw [← Position.behind_after]
      cases u with
      | nil => exact Or.inl rfl
      | cons c u => exact Or.inr (Position.precedes_after_cons _ c u)
    rcases List.mem_cons.mp h with rfl | h
    · exact hmove b.trivia
    · rcases hmove b.written with heq | hlt
      · rw [heq]
        exact ih _ token h
      · rcases ih _ token h with heq | hlt'
        · exact Or.inr (heq ▸ hlt)
        · exact Or.inr (hlt.trans hlt')

theorem Block.tokensBehind_sorted (blocks : List Block) (before : Text) :
    (tokensBehind before blocks).Pairwise fun a b => a.position.Precedes b.position := by
  induction blocks generalizing before with
  | nil => exact List.Pairwise.nil
  | cons b blocks ih =>
    refine List.Pairwise.cons ?_ (ih _)
    intro token h
    -- the pair itself takes up at least one character
    have hpair : (Position.behind (before ++ b.trivia)).Precedes
        (Position.behind (before ++ b.written)) := by
      rw [Block.written, ← List.append_assoc, ← Position.behind_after (before ++ b.trivia)]
      cases hw : b.pair.written with
      | nil => exact absurd hw b.pair.written_ne_nil
      | cons c u => exact Position.precedes_after_cons _ c u
    rcases tokensBehind_from blocks _ token h with heq | hlt
    · exact heq ▸ hpair
    · exact hpair.trans hlt

/-- The values of tokens are values of pairs, which can be written. -/
theorem Block.value_of_mem_tokensBehind (blocks : List Block) (before : Text) :
    ∀ token ∈ tokensBehind before blocks, token.value.getLast? ≠ some '\\' := by
  induction blocks generalizing before with
  | nil => intro token h; exact absurd h List.not_mem_nil
  | cons b blocks ih =>
    intro token h
    rcases List.mem_cons.mp h with rfl | h
    · exact b.wellFormed.value
    · exact ih _ token h

/-! ### The theorem -/

/-- **Tokenizing accepts the layouts, and decodes them.**  A text has tokens if and only
if it is laid out as a template, and they are the tokens of its layout.  Hence a
value can stand in a template if and only if it does not end in a backslash, and
the places of tokens ascend. -/
theorem tokenize_decodes_layouts :
    (∀ (text : Text) (tokens : List Token), tokenize text = .ok tokens ↔
      ∃ layout : Layout, layout.written = text ∧ layout.tokens = tokens) ∧
    (∀ value : Text,
      (∃ text tokens, tokenize text = .ok tokens ∧ ∃ token ∈ tokens, token.value = value) ↔
        value.getLast? ≠ some '\\') ∧
    ∀ (text : Text) (tokens : List Token), tokenize text = .ok tokens →
      tokens.Pairwise fun a b => a.position.Precedes b.position := by
  have hread : ∀ layout : Layout, tokenize layout.written = .ok layout.tokens := fun layout =>
    tokenizeFrom_layout layout.blocks [] layout.final
  have hlayout : ∀ (text : Text) (tokens : List Token), tokenize text = .ok tokens →
      ∃ layout : Layout, layout.written = text ∧ layout.tokens = tokens := by
    intro text tokens h
    rw [tokenize_eq_behind] at h
    obtain ⟨blocks, last, hlast, htext, htokens⟩ := exists_blocks_of_tokenizeFrom h
    exact ⟨⟨blocks, last, hlast⟩, htext.symm, htokens.symm⟩
  refine ⟨fun text tokens => ⟨hlayout text tokens, ?_⟩, fun value => ⟨?_, ?_⟩, ?_⟩
  · rintro ⟨layout, rfl, rfl⟩
    exact hread layout
  · rintro ⟨text, tokens, h, token, hmem, rfl⟩
    obtain ⟨layout, -, rfl⟩ := hlayout text tokens h
    exact Block.value_of_mem_tokensBehind _ _ token hmem
  · intro hvalue
    -- the value as the one keybind of a template
    have hkeybind := tokenize_compact (.setting .keybind) value hvalue
    exact ⟨_, _, hkeybind, _, List.mem_cons_self, rfl⟩
  · intro text tokens h
    obtain ⟨layout, -, rfl⟩ := hlayout text tokens h
    exact Block.tokensBehind_sorted _ _

/-- Two pairs on two lines: an escaped quote in the first value, a line feed and a comment
behind it. -/
theorem tokenize_decodes_layouts_two_pairs :
    tokenize "KEYBIND : \"\\\"\\k\"\n#c\n OPTION_TAG:\"\" #".toList =
        .ok [⟨⟨1, 1⟩, .setting .keybind, "\"\\k".toList⟩, ⟨⟨3, 2⟩, .outline .optionTag, []⟩] ∧
      (⟨1, 1⟩ : Position).Precedes ⟨3, 2⟩ := by
  have hread : tokenize "KEYBIND : \"\\\"\\k\"\n#c\n OPTION_TAG:\"\" #".toList =
      .ok [⟨⟨1, 1⟩, .setting .keybind, "\"\\k".toList⟩, ⟨⟨3, 2⟩, .outline .optionTag, []⟩] := by
    let first : Block :=
      ⟨[], ⟨.setting .keybind, [' '], [' '], "\"\\k".toList⟩, .nil,
        List.forall_mem_singleton.mpr rfl, List.forall_mem_singleton.mpr rfl, by decide⟩
    let second : Block :=
      { Block.compact (.outline .optionTag) [] (by decide) with
        trivia := "\n#c\n ".toList
        closed := .blank (by decide)
          (@Trivia.Closed.comment ['c'] _ (by decide) (.blank (by decide) .nil)) }
    let layout : Layout :=
      ⟨[first, second], " #".toList,
        @Trivia.Final.comment [' '] [] (.blank (by decide) .nil) (by decide)⟩
    exact (tokenize_decodes_layouts.1 _ _).mpr ⟨layout, by decide, by decide⟩
  refine ⟨hread, ?_⟩
  have hsorted := tokenize_decodes_layouts.2.2 _ _ hread
  exact List.rel_of_pairwise_cons hsorted List.mem_cons_self

end Questionnaire
