import Mathlib.Data.List.Induction
import Questionnaire.Proofs.Stretches
import Questionnaire.Template.Token

/-!
# Layouts of templates

What a template is made of, said without reading it.  A layout is a sequence of
blocks, each a pair with the trivia before it, and the trivia that closes the
template.  A layout says which text it stands for and which tokens; that reading
the text gives the tokens is the matter of `Questionnaire.Proofs.Tokenize`.

## Main definitions

* `Trivia.Closed`, `Trivia.Final` — blanks and comments before a pair, and at the
  end of a template.
* `Pair.WellFormed` — nothing but blanks beside the colon, and a value that does
  not end in a backslash.
* `Position.behind t` — the place behind a text, by counting its line feeds and
  the characters after the last of them.
* `Block`, `Block.compact` — a pair with the trivia before it, and one without any layout.
* `Layout`, `Layout.written`, `Layout.tokens` — a template by its parts.

## Main results

* `Trivia.split_of_closed`, `Trivia.split_of_final`, `Pair.split_written` — the parts are
  read as they were written.
* `Trivia.split_form`, `Pair.wellFormed_of_split` — what is read has the
  form that the parts of a layout have.
-/

namespace Questionnaire

open Text

/-! ### Places -/

namespace Position

/-- The place behind a text: its line is told by the line feeds, and its column by the
characters after the last line feed. -/
def behind (t : Text) : Position :=
  ⟨1 + t.count '\n', 1 + (t.reverse.takeWhile (· != '\n')).length⟩

/-- Moving over a text leads from the start to the place behind it. -/
theorem start_after (t : Text) : start.after t = behind t := by
  induction t using List.reverseRec with
  | nil => rfl
  | append_singleton t c ih =>
    rw [after_append, ih, after_cons, after_nil]
    unfold step behind
    rw [List.count_append, List.reverse_append, List.reverse_singleton, List.singleton_append]
    -- a line feed opens a line, and any other character widens the last one
    by_cases h : c = '\n'
    · subst h
      simp
      omega
    · rw [if_neg h, List.takeWhile_cons_of_pos (by simpa using h)]
      simp [h]
      omega

theorem behind_after (t u : Text) : (behind t).after u = behind (t ++ u) := by
  rw [← start_after, ← start_after, after_append]

/-- One place stands before another in the order of reading. -/
def Precedes (a b : Position) : Prop :=
  a.line < b.line ∨ a.line = b.line ∧ a.column < b.column

theorem Precedes.trans {a b c : Position} (h₁ : a.Precedes b) (h₂ : b.Precedes c) :
    a.Precedes c := by
  unfold Precedes at *
  omega

theorem precedes_step (pos : Position) (c : Char) : pos.Precedes (pos.step c) := by
  unfold Precedes step
  split
  · exact Or.inl (Nat.lt_succ_self _)
  · exact Or.inr ⟨rfl, Nat.lt_succ_self _⟩

theorem precedes_after_cons (pos : Position) (c : Char) (t : Text) :
    pos.Precedes (pos.after (c :: t)) := by
  induction t generalizing pos c with
  | nil => exact precedes_step pos c
  | cons d t ih => exact (precedes_step pos c).trans (ih (pos.step c) d)

end Position

/-! ### Trivia -/

namespace Trivia

/-- Blanks and comments, each comment with the line feed that ends it. -/
inductive Closed : Text → Prop
  /-- Nothing at all. -/
  | nil : Closed []
  /-- A blank in front. -/
  | blank {c : Char} {t : Text} : isBlank c = true → Closed t → Closed (c :: t)
  /-- A comment in front. -/
  | comment {body t : Text} : '\n' ∉ body → Closed t → Closed ('#' :: (body ++ '\n' :: t))

/-- Blanks and comments, the last of which may lack its line feed. -/
inductive Final : Text → Prop
  /-- Every comment has its line feed. -/
  | closed {t : Text} : Closed t → Final t
  /-- A last comment without one. -/
  | comment {t body : Text} : Closed t → '\n' ∉ body → Final (t ++ '#' :: body)

theorem Closed.append {u t : Text} (hu : Closed u) (ht : Closed t) : Closed (u ++ t) := by
  induction hu with
  | nil => exact ht
  | blank hc _ ih => exact .blank hc ih
  | comment hbody _ ih =>
    rw [List.cons_append, List.append_assoc, List.cons_append]
    exact .comment hbody ih

theorem Closed.append_final {u t : Text} (hu : Closed u) (ht : Final t) : Final (u ++ t) := by
  cases ht with
  | closed ht => exact .closed (hu.append ht)
  | comment ht hbody =>
    rw [← List.append_assoc]
    exact .comment (hu.append ht) hbody

/-- The text is empty or begins with something that is no trivia. -/
def Stops (t : Text) : Prop := ∀ c ∈ t.head?, isBlank c = false ∧ c ≠ '#'

theorem stops_nil : Stops [] := fun c h => by simp at h

theorem stops_cons {c : Char} {t : Text} (hblank : isBlank c = false) (hhash : c ≠ '#') :
    Stops (c :: t) := by
  intro d hd
  obtain rfl : c = d := by simpa using hd
  exact ⟨hblank, hhash⟩

theorem splitFrom_cons (inComment : Bool) (c : Char) (r : Text) :
    splitFrom inComment (c :: r) =
      if inComment || isBlank c || c == '#' then
        (c :: (splitFrom (c != '\n' && (inComment || c == '#')) r).1,
          (splitFrom (c != '\n' && (inComment || c == '#')) r).2)
      else ([], c :: r) := rfl

/-- Within a comment every character but the line feed is skipped. -/
theorem splitFrom_true_cons {c : Char} (hc : c ≠ '\n') (r : Text) :
    splitFrom true (c :: r) = (c :: (splitFrom true r).1, (splitFrom true r).2) := by
  have hne : (c != '\n') = true := bne_iff_ne.mpr hc
  rw [splitFrom_cons, hne]
  rfl

theorem splitFrom_comment {body : Text} (hbody : '\n' ∉ body) (t : Text) :
    splitFrom true (body ++ '\n' :: t) = (body ++ '\n' :: (split t).1, (split t).2) := by
  induction body with
  | nil => rfl
  | cons c body ih =>
    rw [List.mem_cons, not_or] at hbody
    rw [List.cons_append, splitFrom_true_cons (Ne.symm hbody.1), ih hbody.2]
    rfl

theorem splitFrom_lastComment {body : Text} (hbody : '\n' ∉ body) :
    splitFrom true body = (body, []) := by
  induction body with
  | nil => rfl
  | cons c body ih =>
    rw [List.mem_cons, not_or] at hbody
    rw [splitFrom_true_cons (Ne.symm hbody.1), ih hbody.2]

theorem split_hash (t : Text) :
    split ('#' :: t) = ('#' :: (splitFrom true t).1, (splitFrom true t).2) := rfl

theorem split_blank {c : Char} (hc : isBlank c = true) (t : Text) :
    split (c :: t) = (c :: (split t).1, (split t).2) := by
  have hne : (c == '#') = false := by
    rw [beq_eq_false_iff_ne]
    rintro rfl
    exact absurd hc (by decide)
  unfold split
  rw [splitFrom_cons, hc, hne, Bool.or_self, Bool.and_false]
  rfl

theorem split_of_stops {t : Text} (h : Stops t) : split t = ([], t) := by
  cases t with
  | nil => rfl
  | cons c t =>
    obtain ⟨hblank, hhash⟩ := h c rfl
    unfold split
    rw [splitFrom_cons]
    simp [hblank, hhash]

/-- Closed trivia is read whole, and reading goes on behind it. -/
theorem split_closed_append {u : Text} (hu : Closed u) (t : Text) :
    split (u ++ t) = (u ++ (split t).1, (split t).2) := by
  induction hu with
  | nil => rfl
  | blank hc _ ih => rw [List.cons_append, split_blank hc, ih]; rfl
  | comment hbody _ ih =>
    rw [List.cons_append, List.append_assoc, List.cons_append, split_hash,
      splitFrom_comment hbody, ih]
    simp

theorem split_of_closed {u t : Text} (hu : Closed u) (ht : Stops t) : split (u ++ t) = (u, t) := by
  rw [split_closed_append hu, split_of_stops ht, List.append_nil]

theorem split_of_final {t : Text} (h : Final t) : split t = (t, []) := by
  cases h with
  | @closed _ h =>
    have := split_closed_append h []
    rwa [List.append_nil, show split [] = ([], []) from rfl, List.append_nil] at this
  | comment h hbody =>
    rw [split_closed_append h, split_hash, splitFrom_lastComment hbody]

/-- What is split off is final trivia, and closed trivia if anything follows it; what
follows is no trivia. -/
theorem split_form (t : Text) :
    Final (split t).1 ∧ ((split t).2 ≠ [] → Closed (split t).1) ∧ Stops (split t).2 := by
  -- A comment is skipped in one step, so the induction is on the length.
  induction hn : t.length using Nat.strong_induction_on generalizing t with
  | _ n ih =>
    subst hn
    cases t with
    | nil => exact ⟨.closed .nil, fun h => absurd rfl h, stops_nil⟩
    | cons c r =>
      by_cases hblank : isBlank c = true
      · -- a blank joins the trivia behind it
        obtain ⟨hfinal, hclosed, hstops⟩ := ih _ (Nat.lt_succ_self _) r rfl
        rw [split_blank hblank]
        have hc : Closed [c] := .blank hblank .nil
        exact ⟨hc.append_final hfinal, fun h => hc.append (hclosed h), hstops⟩
      by_cases hhash : c = '#'
      · subst hhash
        rw [split_hash]
        by_cases hr : '\n' ∈ r
        · -- a comment joins the trivia behind its line feed
          obtain ⟨body, u, rfl, hbody⟩ := List.eq_append_cons_of_mem hr
          have hlt : u.length < ('#' :: (body ++ '\n' :: u)).length := by simp; omega
          obtain ⟨hfinal, hclosed, hstops⟩ := ih _ hlt u rfl
          rw [splitFrom_comment hbody]
          have hc : Closed ('#' :: (body ++ ['\n'])) := .comment hbody .nil
          have happ : ∀ w : Text, '#' :: (body ++ '\n' :: w) = '#' :: (body ++ ['\n']) ++ w := by
            simp
          rw [happ]
          exact ⟨hc.append_final hfinal, fun h => hc.append (hclosed h), hstops⟩
        · -- without a line feed it is the last
          rw [splitFrom_lastComment hr]
          exact ⟨.comment .nil hr, fun h => absurd rfl h, stops_nil⟩
      · have hstops : Stops (c :: r) := stops_cons (by simpa using hblank) hhash
        rw [split_of_stops hstops]
        exact ⟨.closed .nil, fun _ => .nil, hstops⟩

end Trivia

/-! ### Values -/

namespace Value

@[simp] theorem escape_nil : escape [] = [] := rfl

theorem escape_quote (v : Text) : escape ('"' :: v) = '\\' :: '"' :: escape v := rfl

theorem escape_cons {c : Char} (hc : c ≠ '"') (v : Text) : escape (c :: v) = c :: escape v := by
  rw [escape, if_neg hc]

theorem close?_escaped (r : Text) :
    close? ('\\' :: '"' :: r) = (close? r).map fun (value, rest) => ('"' :: value, rest) := rfl

/-- A character that neither ends the value nor begins an escape stands for itself. -/
theorem close?_plain {c : Char} (hc : c ≠ '"') {r : Text} (hr : c = '\\' → r.head? ≠ some '"') :
    close? (c :: r) = (close? r).map fun (value, rest) => (c :: value, rest) := by
  rw [close?, if_neg hc]
  rintro u rfl rfl
  exact hr rfl rfl

/-- The written form of a value never begins with a quote. -/
theorem head?_escape_ne_quote {v : Text} (hv : v ≠ []) (r : Text) :
    (escape v ++ r).head? ≠ some '"' := by
  cases v with
  | nil => exact absurd rfl hv
  | cons c v =>
    by_cases hc : c = '"'
    · -- a quote is written behind a backslash
      subst hc
      rw [escape_quote]
      simp
    · rw [escape_cons hc]
      simpa using hc

/-- A value that does not end in a backslash is read as it was written. -/
theorem close?_escape {v : Text} (hv : v.getLast? ≠ some '\\') (r : Text) :
    close? (escape v ++ '"' :: r) = some (v, r) := by
  induction v with
  | nil => rfl
  | cons c v ih =>
    have hv' : v.getLast? ≠ some '\\' := by
      intro h
      apply hv
      rw [List.getLast?_cons, h]
      rfl
    by_cases hc : c = '"'
    · subst hc
      rw [escape_quote, List.cons_append, List.cons_append, close?_escaped, ih hv']
      rfl
    · rw [escape_cons hc, List.cons_append, close?_plain hc, ih hv']
      · rfl
      · -- a backslash at the end would hide the closing quote
        rintro rfl
        have hne : v ≠ [] := by
          rintro rfl
          exact hv rfl
        exact head?_escape_ne_quote hne _

/-- A value that is read does not end in a backslash. -/
theorem getLast?_of_close? {t v r : Text} (h : close? t = some (v, r)) :
    v.getLast? ≠ some '\\' := by
  fun_induction close? t generalizing v with
  | case1 => simp at h
  | case2 u ih =>
    obtain ⟨⟨w, x⟩, hw, he⟩ := Option.map_eq_some_iff.mp h
    obtain ⟨rfl, rfl⟩ := Prod.mk.inj he
    rw [List.getLast?_cons]
    cases hl : w.getLast? with
    | none => simp
    | some d => simpa [hl] using ih hw
  | case3 u =>
    obtain ⟨rfl, -⟩ := Prod.mk.inj (Option.some.inj h)
    simp
  | case4 c u hesc hc ih =>
    obtain ⟨⟨w, x⟩, hw, he⟩ := Option.map_eq_some_iff.mp h
    obtain ⟨rfl, rfl⟩ := Prod.mk.inj he
    rw [List.getLast?_cons]
    cases hl : w.getLast? with
    | some d => simpa [hl] using ih hw
    | none =>
      -- only the value's own end stands behind `c`, so `c` is no backslash
      obtain rfl := List.getLast?_eq_none_iff.mp hl
      have hu := escape_append hw
      rw [escape_nil, List.nil_append] at hu
      intro hlast
      exact hesc x (by simpa using hlast) hu.symm

end Value

/-! ### Pairs -/

namespace Key

theorem mem_all (key : Key) : key ∈ all := by
  rcases key with (k | k | _ | _ | _ | _) | k | k
  case outline.prompt => cases k <;> decide
  case outline.choice => cases k <;> decide
  case tags => cases k <;> decide
  case setting => cases k <;> decide
  all_goals decide

theorem ofSpelling?_spelling (key : Key) : ofSpelling? key.spelling = some key := by
  have h : ∀ key ∈ all, ofSpelling? key.spelling = some key := by decide +kernel
  exact h key (mem_all key)

theorem isKeyChar_of_mem_spelling {key : Key} {c : Char} (hc : c ∈ key.spelling) :
    Pair.isKeyChar c = true := by
  have h : ∀ key ∈ all, key.spelling.all Pair.isKeyChar = true := by decide +kernel
  exact List.all_eq_true.mp (h key (mem_all key)) c hc

/-- No key begins like trivia. -/
theorem exists_spelling_eq_cons (key : Key) :
    ∃ c r, key.spelling = c :: r ∧ isBlank c = false ∧ c ≠ '#' := by
  have h : ∀ key ∈ all, key.spelling.head?.any (fun c => !isBlank c && c != '#') = true := by
    decide +kernel
  have hkey := h key (mem_all key)
  cases hs : key.spelling with
  | nil => rw [hs] at hkey; exact absurd hkey (by simp)
  | cons c r =>
    rw [hs] at hkey
    simp only [List.head?_cons, Option.any_some, Bool.and_eq_true, Bool.not_eq_true',
      bne_iff_ne] at hkey
    exact ⟨c, r, rfl, hkey.1, hkey.2⟩

end Key

namespace Pair

/-- Only blanks stand beside the colon, and the value does not end in a backslash. -/
structure WellFormed (p : Pair) : Prop where
  /-- Blanks before the colon. -/
  beforeColon : ∀ c ∈ p.beforeColon, isBlank c = true
  /-- Blanks behind the colon. -/
  afterColon : ∀ c ∈ p.afterColon, isBlank c = true
  /-- A backslash at the end would hide the closing quote. -/
  value : p.value.getLast? ≠ some '\\'

theorem not_isKeyChar_of_isBlank {c : Char} (hc : isBlank c = true) : isKeyChar c = false := by
  simp [isKeyChar, hc]

theorem written_eq (p : Pair) (r : Text) :
    p.written ++ r = p.key.spelling ++
      (p.beforeColon ++ ':' :: (p.afterColon ++ '"' :: (Value.escape p.value ++ '"' :: r))) := by
  simp [written]

theorem written_ne_nil (p : Pair) : p.written ≠ [] := by
  simp [written]

theorem stops_written (p : Pair) (r : Text) : Trivia.Stops (p.written ++ r) := by
  obtain ⟨c, u, hkey, hblank, hhash⟩ := p.key.exists_spelling_eq_cons
  rw [written_eq, hkey]
  exact Trivia.stops_cons hblank hhash

/-- The word of a key ends at the blanks and the colon behind it. -/
theorem not_isKeyChar_of_head? {blanks : Text} (hblanks : ∀ c ∈ blanks, isBlank c = true)
    (r : Text) : ∀ c ∈ (blanks ++ ':' :: r).head?, isKeyChar c = false := by
  intro c hc
  cases blanks with
  | nil =>
    obtain rfl : ':' = c := by simpa using hc
    rfl
  | cons d u =>
    obtain rfl : d = c := by simpa using hc
    exact not_isKeyChar_of_isBlank (hblanks d List.mem_cons_self)

theorem not_isBlank_of_head?_cons {d : Char} (hd : isBlank d = false) (r : Text) :
    ∀ c ∈ (d :: r).head?, isBlank c = false := by
  intro c hc
  obtain rfl : d = c := by simpa using hc
  exact hd

/-- A well-formed pair is read as it was written. -/
theorem split_written {p : Pair} (hp : p.WellFormed) (r : Text) :
    split (p.written ++ r) = .ok (p, r) := by
  have hkey : ∀ c ∈ p.key.spelling, isKeyChar c = true := fun c hc =>
    Key.isKeyChar_of_mem_spelling hc
  have hend := not_isKeyChar_of_head? hp.beforeColon
  have hcolon : ∀ u, ∀ c ∈ (':' :: u : Text).head?, isBlank c = false :=
    not_isBlank_of_head?_cons rfl
  have hquote : ∀ u, ∀ c ∈ ('"' :: u : Text).head?, isBlank c = false :=
    not_isBlank_of_head?_cons rfl
  rw [written_eq]
  unfold split
  simp only [takeWhile_append_of_head? hkey (hend _), dropWhile_append_of_head? hkey (hend _),
    Key.ofSpelling?_spelling, takeWhile_append_of_head? hp.beforeColon (hcolon _),
    dropWhile_append_of_head? hp.beforeColon (hcolon _),
    takeWhile_append_of_head? hp.afterColon (hquote _),
    dropWhile_append_of_head? hp.afterColon (hquote _), Value.close?_escape hp.value]

theorem wellFormed_of_split {t r : Text} {p : Pair} (h : split t = .ok (p, r)) :
    p.WellFormed := by
  simp only [split] at h
  split at h
  · cases h
  split at h
  · split at h
    · split at h
      · next value rest hvalue =>
        cases h
        exact ⟨fun c hc => List.mem_takeWhile_imp hc, fun c hc => List.mem_takeWhile_imp hc,
          Value.getLast?_of_close? hvalue⟩
      · cases h
    · cases h
  · cases h

end Pair

/-! ### Layouts -/

/-- A pair with the trivia before it. -/
structure Block where
  /-- The trivia. -/
  trivia : Text
  /-- The pair. -/
  pair : Pair
  /-- Every comment of the trivia has its line feed. -/
  closed : Trivia.Closed trivia
  /-- The pair can be written. -/
  wellFormed : pair.WellFormed

/-- The text of a block. -/
def Block.written (b : Block) : Text := b.trivia ++ b.pair.written

/-- A key and a value with nothing before them or between them. -/
def Block.compact (key : Key) (value : Text) (h : value.getLast? ≠ some '\\') : Block :=
  ⟨[], ⟨key, [], [], value⟩, .nil, by simp, by simp, h⟩

/-- The tokens of blocks that stand behind a text: each pair without its layout, at
the place behind everything before it. -/
def Block.tokensBehind : Text → List Block → List Token
  | _, [] => []
  | before, b :: blocks =>
    ⟨.behind (before ++ b.trivia), b.pair.key, b.pair.value⟩ ::
      tokensBehind (before ++ b.written) blocks

/-- A template by its parts. -/
structure Layout where
  /-- The pairs, each with the trivia before it. -/
  blocks : List Block
  /-- The trivia behind the last pair. -/
  last : Text
  /-- The last comment may lack its line feed. -/
  final : Trivia.Final last

namespace Layout

/-- The text of a layout. -/
def written (l : Layout) : Text := l.blocks.flatMap Block.written ++ l.last

/-- The tokens of a layout. -/
def tokens (l : Layout) : List Token := Block.tokensBehind [] l.blocks

end Layout

end Questionnaire
