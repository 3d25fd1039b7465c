import Questionnaire.Proofs.Tokenize

/-!
# Where reading breaks off

A text that is no template is read up to a rest at which no pair begins.  What comes
before the rest is the longest part of the text that is laid out as a template, and
the rest is refused for one of four reasons: its first word is no key, no colon
follows the key, no quote follows the colon, or the value is never closed.  The
reason tells how far into the rest the error lies.

## Main definitions

* `Pair.Misread t read fault` — no pair begins at `t`, and the fault lies behind `read`.
* `Layout.IsLongest layout text` — no longer part of the text is laid out as a template.

## Main results

* `Value.close?_eq_none_iff` — values that are never closed.
* `Pair.misread_iff` — the four reasons are those for which no pair is read.
* `Layout.isLongest_of_stuck` — what comes before the rest is the longest layout.
* `tokenize_breaks_off` — **where and why tokenizing fails.**
-/

namespace Questionnaire

open Text

/-! ### Values that are never closed -/

/-- A value is never closed if and only if every quote has a backslash directly before it. -/
theorem Value.close?_eq_none_iff {t : Text} :
    close? t = none ↔ ∀ u v, t = u ++ '"' :: v → u.getLast? = some '\\' := by
  fun_induction close? t with
  | case1 =>
    refine iff_of_true rfl fun u v h => ?_
    cases u <;> cases h
  | case2 r ih =>
    rw [Option.map_eq_none_iff, ih]
    constructor
    · intro h u v huv
      rcases u with _ | ⟨c, _ | ⟨d, u⟩⟩
      · cases huv
      · obtain ⟨rfl, -⟩ := List.cons.inj huv
        rfl
      · -- the quote lies behind the escaped one
        have hlast := h u v (List.cons.inj (List.cons.inj huv).2).2
        rw [List.getLast?_cons, List.getLast?_cons, hlast]
        rfl
    · intro h u v huv
      have hlast := h ('\\' :: '"' :: u) v (by rw [huv]; rfl)
      cases u with
      | nil => exact absurd hlast (by decide)
      | cons c u => rwa [List.getLast?_cons_cons, List.getLast?_cons_cons] at hlast
  | case3 r =>
    refine iff_of_false (by simp) fun h => ?_
    exact absurd (h [] r rfl) (by simp)
  | case4 c r hescape hc ih =>
    rw [Option.map_eq_none_iff, ih]
    constructor
    · intro h u v huv
      cases u with
      | nil => exact absurd (List.cons.inj huv).1 hc
      | cons d u =>
        have hlast := h u v (List.cons.inj huv).2
        rw [List.getLast?_cons, hlast]
        rfl
    · intro h u v huv
      have hlast := h (c :: u) v (by rw [huv]; rfl)
      cases u with
      | nil =>
        -- a backslash before the quote would make an escape
        obtain rfl : c = '\\' := by simpa using hlast
        exact absurd huv (hescape v rfl)
      | cons d u => rwa [List.getLast?_cons_cons] at hlast

/-! ### Rests at which no pair begins -/

namespace Pair

/-- No pair begins at the text: what has to be read before the fault is found, and the
fault.  It lies behind what was read. -/
inductive Misread : Text → Text → PairFault → Prop
  /-- The first word is no key. -/
  | unknownKey {word after : Text} :
      (∀ c ∈ word, isKeyChar c = true) → (∀ c ∈ after.head?, isKeyChar c = false) →
      (∀ key : Key, key.spelling ≠ word) →
      Misread (word ++ after) [] (.unknownKey word)
  /-- The first word is a key, and what follows it, blanks aside, is no colon. -/
  | missingColon {key : Key} {blanks after : Text} :
      (∀ c ∈ blanks, isBlank c = true) → (∀ c ∈ after.head?, isBlank c = false ∧ c ≠ ':') →
      (∀ c ∈ (blanks ++ after).head?, isKeyChar c = false) →
      Misread (key.spelling ++ (blanks ++ after)) (key.spelling ++ blanks) (.missingColon key)
  /-- What follows the colon, blanks aside, is no quote. -/
  | missingQuote {key : Key} {blanks blanks' after : Text} :
      (∀ c ∈ blanks, isBlank c = true) → (∀ c ∈ blanks', isBlank c = true) →
      (∀ c ∈ after.head?, isBlank c = false ∧ c ≠ '"') →
      Misread (key.spelling ++ (blanks ++ ':' :: (blanks' ++ after)))
        (key.spelling ++ (blanks ++ ':' :: blanks')) .missingQuote
  /-- No quote behind the opening one is without a backslash directly before it. -/
  | unterminated {key : Key} {blanks blanks' after : Text} :
      (∀ c ∈ blanks, isBlank c = true) → (∀ c ∈ blanks', isBlank c = true) →
      (∀ u v, after = u ++ '"' :: v → u.getLast? = some '\\') →
      Misread (key.spelling ++ (blanks ++ ':' :: (blanks' ++ '"' :: after)))
        (key.spelling ++ (blanks ++ ':' :: blanks')) .unterminated

theorem Misread.split_eq {t read : Text} {fault : PairFault} (h : Misread t read fault) :
    split t = .error (read, fault) := by
  have hkey : ∀ key : Key, ∀ c ∈ key.spelling, isKeyChar c = true := fun _ _ hc =>
    Key.isKeyChar_of_mem_spelling hc
  unfold split
  cases h with
  | @unknownKey word after hword hafter hnone =>
    have hfind : Key.ofSpelling? word = none := by
      rw [Option.eq_none_iff_forall_ne_some]
      intro key hsome
      exact hnone key (Key.spelling_of_ofSpelling? hsome)
    simp only [takeWhile_append_of_head? hword hafter, hfind]
  | @missingColon key blanks after hblanks hafter hend =>
    have hstop : ∀ c ∈ after.head?, isBlank c = false := fun c hc => (hafter c hc).1
    simp only [takeWhile_append_of_head? (hkey key) hend,
      dropWhile_append_of_head? (hkey key) hend, Key.ofSpelling?_spelling,
      takeWhile_append_of_head? hblanks hstop, dropWhile_append_of_head? hblanks hstop]
    split
    · next r => exact absurd rfl (hafter ':' rfl).2
    · rfl
  | @missingQuote key blanks blanks' after hblanks hblanks' hafter =>
    have hend := not_isKeyChar_of_head? hblanks (blanks' ++ after)
    have hcolon := not_isBlank_of_head?_cons (d := ':') rfl (blanks' ++ after)
    have hstop : ∀ c ∈ after.head?, isBlank c = false := fun c hc => (hafter c hc).1
    simp only [takeWhile_append_of_head? (hkey key) hend,
      dropWhile_append_of_head? (hkey key) hend, Key.ofSpelling?_spelling,
      takeWhile_append_of_head? hblanks hcolon, dropWhile_append_of_head? hblanks hcolon,
      takeWhile_append_of_head? hblanks' hstop, dropWhile_append_of_head? hblanks' hstop]
    split
    · next r => exact absurd rfl (hafter '"' rfl).2
    · rw [List.append_assoc]
  | @unterminated key blanks blanks' after hblanks hblanks' hafter =>
    have hend := not_isKeyChar_of_head? hblanks (blanks' ++ '"' :: after)
    have hcolon := not_isBlank_of_head?_cons (d := ':') rfl (blanks' ++ '"' :: after)
    have hquote := not_isBlank_of_head?_cons (d := '"') rfl after
    simp only [takeWhile_append_of_head? (hkey key) hend,
      dropWhile_append_of_head? (hkey key) hend, Key.ofSpelling?_spelling,
      takeWhile_append_of_head? hblanks hcolon, dropWhile_append_of_head? hblanks hcolon,
      takeWhile_append_of_head? hblanks' hquote, dropWhile_append_of_head? hblanks' hquote,
      Value.close?_eq_none_iff.mpr hafter]
    rw [List.append_assoc]

theorem misread_of_split_eq {t read : Text} {fault : PairFault}
    (h : split t = .error (read, fault)) : Misread t read fault := by
  obtain ⟨word, after, htake, hdrop, rfl, hword, hwordEnd⟩ := exists_stretch isKeyChar t
  simp only [split, htake, hdrop] at h
  split at h
  · next hnone =>
    cases h
    refine .unknownKey hword hwordEnd fun key hkey => ?_
    rw [← hkey, Key.ofSpelling?_spelling] at hnone
    cases hnone
  next key hkey =>
  obtain rfl := Key.spelling_of_ofSpelling? hkey
  obtain ⟨blanks, rest, hbefore, hbehind, rfl, hblanks, hend⟩ := exists_stretch isBlank after
  rw [hbefore] at h
  split at h
  · next r hcolon =>
    obtain rfl := hbehind.symm.trans hcolon
    obtain ⟨blanks', rest', hbefore', hbehind', rfl, hblanks', hend'⟩ := exists_stretch isBlank r
    rw [hbefore', List.append_assoc] at h
    split at h
    · next r hquote =>
      obtain rfl := hbehind'.symm.trans hquote
      split at h
      · cases h
      · next hclose =>
        cases h
        exact .unterminated hblanks hblanks' (Value.close?_eq_none_iff.mp hclose)
    · next hquote =>
      cases h
      refine .missingQuote hblanks hblanks' fun c hc => ⟨hend' c hc, ?_⟩
      rintro rfl
      obtain ⟨u, hu⟩ := List.head?_eq_some_iff.mp hc
      exact hquote u (hbehind'.trans hu)
  · next hcolon =>
    cases h
    refine .missingColon hblanks (fun c hc => ⟨hend c hc, ?_⟩) hwordEnd
    rintro rfl
    obtain ⟨u, hu⟩ := List.head?_eq_some_iff.mp hc
    exact hcolon u (hbehind.trans hu)

/-- The four reasons are those for which no pair is read. -/
theorem misread_iff {t read : Text} {fault : PairFault} :
    Misread t read fault ↔ split t = .error (read, fault) :=
  ⟨Misread.split_eq, misread_of_split_eq⟩

/-- No two reasons hold at once. -/
theorem Misread.unique {t read read' : Text} {fault fault' : PairFault}
    (h : Misread t read fault) (h' : Misread t read' fault') : read' = read ∧ fault' = fault :=
  Prod.mk.inj (Except.error.inj (h'.split_eq.symm.trans h.split_eq))

/-- Behind what was read stands something that is no blank, or the text ends. -/
theorem Misread.exists_rest {t read : Text} {fault : PairFault} (h : Misread t read fault)
    (ht : ∀ c ∈ t.head?, isBlank c = false) :
    ∃ rest, read ++ rest = t ∧ ∀ c ∈ rest.head?, isBlank c = false := by
  cases h with
  | unknownKey => exact ⟨_, rfl, ht⟩
  | missingColon _ hafter _ => exact ⟨_, List.append_assoc .., fun c hc => (hafter c hc).1⟩
  | missingQuote _ _ hafter => exact ⟨_, by simp, fun c hc => (hafter c hc).1⟩
  | @unterminated _ _ _ after =>
    exact ⟨'"' :: after, by simp, not_isBlank_of_head?_cons rfl after⟩

end Pair

/-! ### The longest layout -/

/-- No longer part at the beginning of the text is laid out as a template. -/
def Layout.IsLongest (layout : Layout) (text : Text) : Prop :=
  layout.written <+: text ∧
    ∀ other : Layout, other.written <+: text → other.written.length ≤ layout.written.length

/-- Trivia goes no further than to where something else stands. -/
theorem Trivia.length_le_of_append_eq {last tail trivia rest : Text} (hlast : Final last)
    (htrivia : Closed trivia) (hstops : Stops rest) (h : last ++ tail = trivia ++ rest) :
    last.length ≤ trivia.length := by
  rcases List.append_eq_append_iff.mp h with ⟨u, rfl, -⟩ | ⟨u, rfl, rfl⟩
  · rw [List.length_append]
    exact Nat.le_add_right _ _
  · -- what goes beyond begins like the rest, which is no trivia
    have hu : Stops u := by
      intro c hc
      apply hstops
      obtain ⟨v, rfl⟩ := List.head?_eq_some_iff.mp hc
      rfl
    have hsplit := split_of_final hlast
    rw [split_of_closed htrivia hu] at hsplit
    obtain rfl := (Prod.mk.inj hsplit).2
    rw [List.append_nil]

theorem length_le_of_blocks_append_eq {blocks others : List Block}
    {trivia rest last tail read : Text} {fault : PairFault} (htrivia : Trivia.Closed trivia)
    (hstops : Trivia.Stops rest) (hpair : Pair.split rest = .error (read, fault))
    (hlast : Trivia.Final last)
    (h : others.flatMap Block.written ++ (last ++ tail) =
      blocks.flatMap Block.written ++ (trivia ++ rest)) :
    (others.flatMap Block.written ++ last).length ≤
      (blocks.flatMap Block.written ++ trivia).length := by
  -- Both texts begin with the same blocks, as the first block of a text is read off it.
  have hblock : ∀ (b : Block) (r : Text),
      Trivia.split (b.written ++ r) = (b.trivia, b.pair.written ++ r) := by
    intro b r
    rw [Block.written, List.append_assoc]
    exact Trivia.split_of_closed b.closed (b.pair.stops_written r)
  induction blocks generalizing others with
  | nil =>
    cases others with
    | nil => exact Trivia.length_le_of_append_eq hlast htrivia hstops h
    | cons b others =>
      -- a pair would begin at the rest
      have hsplit := congrArg Trivia.split h
      rw [List.flatMap_cons, List.append_assoc, hblock, List.flatMap_nil, List.nil_append,
        Trivia.split_of_closed htrivia hstops] at hsplit
      rw [← (Prod.mk.inj hsplit).2, Pair.split_written b.wellFormed] at hpair
      cases hpair
  | cons b blocks ih =>
    cases others with
    | nil =>
      rw [List.flatMap_nil, List.nil_append, List.flatMap_cons, Block.written, List.append_assoc,
        List.append_assoc] at h
      have hle := Trivia.length_le_of_append_eq hlast b.closed (b.pair.stops_written _) h
      simp only [List.flatMap_nil, List.flatMap_cons, Block.written, List.length_append,
        List.length_nil]
      omega
    | cons other others =>
      rw [List.flatMap_cons, List.append_assoc, List.flatMap_cons, List.append_assoc] at h
      have hsplit := congrArg Trivia.split h
      rw [hblock, hblock] at hsplit
      have hread := congrArg Pair.split (Prod.mk.inj hsplit).2
      rw [Pair.split_written other.wellFormed, Pair.split_written b.wellFormed] at hread
      obtain ⟨hsame, hrest⟩ := Prod.mk.inj (Except.ok.inj hread)
      have hle := ih hrest
      have hwritten : other.written = b.written := by
        rw [Block.written, Block.written, (Prod.mk.inj hsplit).1, hsame]
      simp only [List.flatMap_cons, List.append_assoc, hwritten, List.length_append] at hle ⊢
      omega

/-- What comes before a rest at which no pair begins is the longest layout. -/
theorem Layout.isLongest_of_stuck {blocks : List Block} {trivia rest read : Text}
    {fault : PairFault} (htrivia : Trivia.Closed trivia) (hstops : Trivia.Stops rest)
    (hpair : Pair.split rest = .error (read, fault)) :
    IsLongest ⟨blocks, trivia, .closed htrivia⟩
      (blocks.flatMap Block.written ++ (trivia ++ rest)) := by
  refine ⟨⟨rest, List.append_assoc ..⟩, fun other ⟨tail, hother⟩ => ?_⟩
  rw [Layout.written, List.append_assoc] at hother
  exact length_le_of_blocks_append_eq htrivia hstops hpair other.final hother

theorem Layout.IsLongest.written_eq {layout layout' : Layout} {text : Text}
    (h : layout.IsLongest text) (h' : layout'.IsLongest text) :
    layout.written = layout'.written :=
  (List.prefix_of_prefix_length_le h.1 h'.1 (h'.2 layout h.1)).eq_of_length_le (h.2 layout' h'.1)

/-- A text that is refused is a layout and a rest at which no pair begins. -/
theorem exists_misread_of_tokenize_error {text : Text} {e : TemplateError}
    (h : tokenize text = .error e) :
    ∃ (layout : Layout) (rest : Text), layout.written ++ rest = text ∧
      layout.IsLongest text ∧ rest ≠ [] ∧ Trivia.Stops rest ∧
      ∃ read fault, Pair.Misread rest read fault ∧
        e = ⟨.behind (layout.written ++ read), .reading fault⟩ := by
  obtain ⟨blocks, trivia, rest, rfl, hfinal, hclosed, hstops, hstuck⟩ :=
    exists_blocks_append text
  rw [tokenize_eq_behind, tokenizeFrom_blocks, List.nil_append] at h
  by_cases hrest : rest = []
  · rw [hrest, List.append_nil, tokenizeFrom_final _ hfinal] at h
    cases h
  · obtain ⟨read, fault, hpair⟩ := hstuck hrest
    rw [tokenizeFrom_stuck _ (hclosed hrest) hstops hrest hpair] at h
    cases h
    exact ⟨⟨blocks, trivia, .closed (hclosed hrest)⟩, rest, List.append_assoc ..,
      Layout.isLongest_of_stuck (hclosed hrest) hstops hpair, hrest, hstops, read, fault,
      Pair.misread_iff.mpr hpair, rfl⟩

/-! ### The theorem -/

/-- **Where and why tokenizing fails.**  A text is refused if and only if something is left
behind the longest part that is laid out as a template.  What is left does not begin with
trivia, exactly one reason holds for which no pair begins there, and the error has that
reason, at the place behind what has to be read to see it. -/
theorem tokenize_breaks_off (text : Text) (e : TemplateError) :
    tokenize text = .error e ↔
      ∃ (layout : Layout) (rest : Text), layout.written ++ rest = text ∧
        layout.IsLongest text ∧ rest ≠ [] ∧ Trivia.Stops rest ∧
        ∃ read fault, Pair.Misread rest read fault ∧
          (∀ read' fault', Pair.Misread rest read' fault' → read' = read ∧ fault' = fault) ∧
          e = ⟨.behind (layout.written ++ read), .reading fault⟩ := by
  constructor
  · intro h
    obtain ⟨layout, rest, htext, hlongest, hrest, hstops, read, fault, hmisread, rfl⟩ :=
      exists_misread_of_tokenize_error h
    exact ⟨layout, rest, htext, hlongest, hrest, hstops, read, fault, hmisread,
      fun _ _ => hmisread.unique, rfl⟩
  · rintro ⟨layout, rest, htext, hlongest, hrest, -, read, fault, hmisread, -, rfl⟩
    cases h : tokenize text with
    | ok tokens =>
      -- the whole text would be a layout, and a longer one
      obtain ⟨blocks, last, hlast, hwhole, -⟩ := @exists_blocks_of_tokenizeFrom [] _ _ h
      have hle := hlongest.2 ⟨blocks, last, hlast⟩ ⟨[], by rw [List.append_nil, hwhole]; rfl⟩
      rw [Layout.written, ← hwhole, ← htext, List.length_append] at hle
      exact absurd (List.length_eq_zero_iff.mp (by omega)) hrest
    | error e =>
      obtain ⟨layout', rest', htext', hlongest', -, -, read', fault', hmisread', rfl⟩ :=
        exists_misread_of_tokenize_error h
      have hwritten := hlongest.written_eq hlongest'
      rw [← htext, hwritten, List.append_cancel_left_eq] at htext'
      obtain ⟨rfl, rfl⟩ := hmisread.unique (htext' ▸ hmisread')
      rw [hwritten]

end Questionnaire
