import Mathlib.Tactic.SplitIfs
import Questionnaire.Json.Value
import Questionnaire.Proofs.JsonStrings
import Questionnaire.Proofs.Stretches

/-!
# Indented JSON tells the value

Every value of an indented text is followed by a comma, by a new line, or by nothing.
A number ends there, and the other values end with their own closing character.  So the
text of a value, whatever the level of indentation, tells what the value shows, and
where it ends: of a number its digits, and of anything else all of it.

## Main definitions

* `Json.Shown`, `Json.shown` — what a value shows.
* `Json.Ends r` — a value may end before `r`.
* `Json.Tells write view a` — the written form of `a` tells what is seen of it.

## Main results

* `Json.block_append_inj` — parts between brackets tell what is seen of each of them.
* `Json.tells_prettyAt`, `Json.pretty_append_inj` — **an indented text tells what its value
  shows.**
-/

namespace Questionnaire

open Text

/-! ### Numbers -/

namespace Json

/-- The character may be part of a written number. -/
def isBare (c : Char) : Bool := c.isDigit || ['.', 'e', '-', 'n', 'u', 'l'].contains c

theorem isBare_of_mem_write {n : Nat} {c : Char} (h : c ∈ Numeral.write n) : isBare c = true := by
  rw [isBare, Numeral.isDigit_of_mem_write h, Bool.true_or]

end Json

namespace Shortest

open Json

theorem isBare_of_mem_digits {m : Nat} {e : Int} : ∀ c ∈ (digits m e).1, isBare c = true := by
  intro c h
  dsimp only [digits] at h
  split at h
  · rw [List.mem_singleton.mp h]
    rfl
  · exact isBare_of_mem_write
      (List.mem_reverse.mp (List.mem_of_mem_drop (List.mem_reverse.mp h)))

theorem isBare_of_mem_layout {ds : Text} (hds : ∀ c ∈ ds, isBare c = true) (g : Int) :
    ∀ c ∈ layout ds g, isBare c = true := by
  have hzeros : ∀ n, ∀ c ∈ List.replicate n '0', isBare c = true := by
    intro n c hc
    rw [List.eq_of_mem_replicate hc]
    rfl
  have htake : ∀ n, ∀ c ∈ ds.take n, isBare c = true := fun _ c hc =>
    hds c (List.mem_of_mem_take hc)
  have hdrop : ∀ n, ∀ c ∈ ds.drop n, isBare c = true := fun _ c hc =>
    hds c (List.mem_of_mem_drop hc)
  have hsign : ∀ power : Int, ∀ c ∈ (if power < 0 then ['-'] else []), isBare c = true := by
    intro power
    split
    · exact List.all_eq_true.mp rfl
    · exact List.all_eq_true.mp rfl
  unfold layout
  dsimp only
  split
  · simp only [List.forall_mem_append]
    exact ⟨⟨hds, hzeros _⟩, List.all_eq_true.mp rfl⟩
  split
  · simp only [List.forall_mem_append]
    exact ⟨⟨htake _, List.all_eq_true.mp rfl⟩, hdrop _⟩
  split
  · simp only [List.forall_mem_append]
    exact ⟨⟨List.all_eq_true.mp rfl, hzeros _⟩, hds⟩
  · simp only [List.forall_mem_append]
    refine ⟨⟨⟨?_, List.all_eq_true.mp rfl⟩, hsign _⟩, fun _ => isBare_of_mem_write⟩
    split
    · exact hds
    · simp only [List.forall_mem_append]
      exact ⟨⟨htake _, List.all_eq_true.mp rfl⟩, hdrop _⟩

end Shortest

theorem Binary64.isBare_of_mem_writeShortest (x : Binary64) :
    ∀ c ∈ x.writeShortest, Json.isBare c = true := by
  have hnull : ∀ c ∈ "null".toList, Json.isBare c = true := List.all_eq_true.mp (by decide)
  cases x with
  | nan => exact hnull
  | infinite negative => exact hnull
  | finite negative m e =>
    have hsign : ∀ c ∈ (if negative then ['-'] else []), Json.isBare c = true := by
      cases negative <;> exact List.all_eq_true.mp rfl
    refine List.forall_mem_append.mpr ⟨hsign, ?_⟩
    split
    · exact List.all_eq_true.mp rfl
    · exact Shortest.isBare_of_mem_layout Shortest.isBare_of_mem_digits _

namespace Json

/-! ### Where a value may end -/

/-- A value may end before `r`: nothing follows, or a comma or a new line does. -/
def Ends (r : Text) : Prop := ∀ c ∈ r.head?, c = ',' ∨ c = '\n'

theorem ends_cons {c : Char} (hc : c = ',' ∨ c = '\n') (r : Text) : Ends (c :: r) := by
  rintro d ⟨⟩
  exact hc

/-- Whatever is written like `a`, up to where a value may end, is seen like `a` and ends where
it does. -/
def Tells {α β : Type} (write : α → Text) (view : α → β) (a : α) : Prop :=
  ∀ ⦃b r s⦄, Ends r → Ends s → write a ++ r = write b ++ s → view a = view b ∧ r = s

/-- A number ends where a value may end. -/
theorem bare_append_inj {u v r s : Text} (hu : ∀ c ∈ u, isBare c = true)
    (hv : ∀ c ∈ v, isBare c = true) (hr : Ends r) (hs : Ends s) (h : u ++ r = v ++ s) :
    u = v ∧ r = s := by
  have hstop : ∀ c, c = ',' ∨ c = '\n' → isBare c = false := by
    rintro c (rfl | rfl) <;> decide
  exact append_inj_of_head? hu hv (fun c hc => hstop c (hr c hc)) (fun c hc => hstop c (hs c hc)) h

/-! ### Blocks -/

/-- What follows the first part of a block. -/
def blockTail (level : Nat) (closing : Char) : List Text → Text
  | [] => newline level ++ [closing]
  | part :: parts => ',' :: newline (level + 1) ++ part ++ blockTail level closing parts

theorem block_cons (level : Nat) (opening closing : Char) (part : Text) (parts : List Text) :
    block level opening closing (part :: parts) =
      opening :: (newline (level + 1) ++ (part ++ blockTail level closing parts)) := by
  have htail : ∀ part, (',' :: newline (level + 1)).intercalate (part :: parts) ++
      newline level ++ [closing] = part ++ blockTail level closing parts := by
    induction parts with
    | nil =>
      intro part
      rw [List.intercalate_singleton, blockTail, List.append_assoc]
    | cons next parts ih =>
      intro part
      rw [List.intercalate_cons_of_ne_nil (by simp), List.append_assoc, List.append_assoc,
        List.append_assoc, ← List.append_assoc _ (newline level), ih next, blockTail]
      simp
  rw [← htail, block]
  · simp
  · simp

variable {level : Nat} {opening closing : Char}

theorem ends_blockTail_append (parts : List Text) (r : Text) :
    Ends (blockTail level closing parts ++ r) := by
  cases parts with
  | nil => exact ends_cons (Or.inr rfl) _
  | cons part parts => exact ends_cons (Or.inl rfl) _

section

variable {α β : Type} {write : α → Text} {view : α → β} {as bs : List α} {r s : Text}

theorem blockTail_append_inj (has : ∀ a ∈ as, Tells write view a)
    (h : blockTail level closing (as.map write) ++ r =
      blockTail level closing (bs.map write) ++ s) :
    as.map view = bs.map view ∧ r = s := by
  -- a comma says that a further part follows, and a new line that none does
  induction as generalizing bs with
  | nil =>
    cases bs with
    | nil => exact ⟨rfl, List.append_cancel_left h⟩
    | cons b bs => cases h
  | cons a as ih =>
    rw [List.forall_mem_cons] at has
    cases bs with
    | nil => cases h
    | cons b bs =>
      simp only [List.map_cons, blockTail, List.append_assoc, List.cons_append] at h
      obtain ⟨hview, htail⟩ := has.1 (ends_blockTail_append _ _) (ends_blockTail_append _ _)
        (List.append_cancel_left (List.cons.inj h).2)
      obtain ⟨hviews, hrest⟩ := ih has.2 htail
      exact ⟨by rw [List.map_cons, List.map_cons, hview, hviews], hrest⟩

/-- Parts between brackets tell what is seen of each of them. -/
theorem block_append_inj (hclosing : closing ≠ '\n') (has : ∀ a ∈ as, Tells write view a)
    (h : block level opening closing (as.map write) ++ r =
      block level opening closing (bs.map write) ++ s) :
    as.map view = bs.map view ∧ r = s := by
  cases as with
  | nil =>
    cases bs with
    | nil => exact ⟨rfl, List.append_cancel_left h⟩
    | cons b bs =>
      rw [List.map_cons, block_cons] at h
      exact absurd (List.cons.inj (List.cons.inj h).2).1 hclosing
  | cons a as =>
    cases bs with
    | nil =>
      rw [List.map_cons, block_cons] at h
      exact absurd (List.cons.inj (List.cons.inj h).2).1.symm hclosing
    | cons b bs =>
      have htail : blockTail level closing ((a :: as).map write) ++ r =
          blockTail level closing ((b :: bs).map write) ++ s := by
        rw [List.map_cons, List.map_cons, block_cons, block_cons] at h
        simpa [blockTail] using h
      exact blockTail_append_inj has htail

end

/-! ### What a value shows -/

/-- What a value shows: of a number its digits, and of anything else all of it. -/
inductive Shown where
  /-- The digits of a number. -/
  | bare (t : Text)
  /-- A text. -/
  | text (t : Text)
  /-- A list of values. -/
  | list (items : List Shown)
  /-- An object of named values. -/
  | object (fields : List (Text × Shown))

mutual

/-- What a value shows. -/
def shown : Json → Shown
  | .natural n => .bare (Numeral.write n)
  | .real x => .bare x.writeShortest
  | .text t => .text t
  | .list items => .list (shownItems items)
  | .object fields => .object (shownFields fields)

/-- What the items of a list show. -/
def shownItems : List Json → List Shown
  | [] => []
  | item :: items => shown item :: shownItems items

/-- What the fields of an object show. -/
def shownFields : List (Text × Json) → List (Text × Shown)
  | [] => []
  | (name, value) :: fields => (name, shown value) :: shownFields fields

end

/-- What a field shows. -/
def shownField (field : Text × Json) : Text × Shown := (field.1, field.2.shown)

/-- A field as it is written at a level of indentation. -/
def fieldAt (level : Nat) (field : Text × Json) : Text :=
  quoted field.1 ++ [':', ' '] ++ prettyAt level field.2

theorem shownItems_eq_map (items : List Json) : shownItems items = items.map shown := by
  induction items with
  | nil => rfl
  | cons item items ih => rw [shownItems, ih, List.map_cons]

theorem shownFields_eq_map (fields : List (Text × Json)) :
    shownFields fields = fields.map shownField := by
  induction fields with
  | nil => rfl
  | cons field fields ih => rw [shownFields, ih, List.map_cons, shownField]

theorem prettyItems_eq_map (level : Nat) (items : List Json) :
    prettyItems level items = items.map (prettyAt level) := by
  induction items with
  | nil => rfl
  | cons item items ih => rw [prettyItems, ih, List.map_cons]

theorem prettyFields_eq_map (level : Nat) (fields : List (Text × Json)) :
    prettyFields level fields = fields.map (fieldAt level) := by
  induction fields with
  | nil => rfl
  | cons field fields ih => rw [prettyFields, ih, List.map_cons, fieldAt]

/-! ### The kinds of values -/

/-- The character that opens a value, if the value is no number. -/
def opening? : Json → Option Char
  | .natural _ => none
  | .real _ => none
  | .text _ => some '"'
  | .list _ => some '['
  | .object _ => some '\x7b'

/-- The character opens a value that is no number. -/
def isOpening (c : Char) : Bool := ['"', '[', '\x7b'].contains c

theorem head?_block (level : Nat) (opening closing : Char) (parts : List Text) :
    (block level opening closing parts).head? = some opening := by
  cases parts with
  | nil => rfl
  | cons part parts => rw [block_cons, List.head?_cons]

theorem exists_bare {a : Json} (h : a.opening? = none) :
    ∃ t, (∀ c ∈ t, isBare c = true) ∧ a.shown = .bare t ∧ ∀ level, a.prettyAt level = t := by
  cases a with
  | natural n => exact ⟨_, fun _ => isBare_of_mem_write, rfl, fun _ => rfl⟩
  | real x => exact ⟨_, x.isBare_of_mem_writeShortest, rfl, fun _ => rfl⟩
  | text t => cases h
  | list items => cases h
  | object fields => cases h

/-- Nothing that a number begins with, or that follows an empty one, opens a value. -/
theorem filter_head?_bare {u r : Text} (hu : ∀ c ∈ u, isBare c = true) (hr : Ends r) :
    (u ++ r).head?.filter isOpening = none := by
  rw [Option.filter_eq_none_iff]
  intro c hc hopening
  have hkind : isBare c = true ∨ c = ',' ∨ c = '\n' := by
    cases u with
    | nil => exact Or.inr (hr c hc)
    | cons d u =>
      obtain rfl := Option.some.inj hc
      exact Or.inl (hu d List.mem_cons_self)
  simp only [isOpening, List.contains_eq_mem, List.mem_cons, List.not_mem_nil, or_false,
    decide_eq_true_eq] at hopening
  rcases hopening with rfl | rfl | rfl <;> revert hkind <;> decide

/-- The first character of a written value tells the kind of the value. -/
theorem filter_head?_prettyAt (level : Nat) (a : Json) {r : Text} (hr : Ends r) :
    (prettyAt level a ++ r).head?.filter isOpening = a.opening? := by
  cases hopening : a.opening? with
  | none =>
    obtain ⟨t, ht, -, hpretty⟩ := exists_bare hopening
    rw [hpretty]
    exact filter_head?_bare ht hr
  | some c =>
    cases a with
    | natural n => cases hopening
    | real x => cases hopening
    | text t =>
      cases hopening
      rfl
    | list items =>
      cases hopening
      rw [prettyAt, List.head?_append, head?_block]
      rfl
    | object fields =>
      cases hopening
      rw [prettyAt, List.head?_append, head?_block]
      rfl

theorem opening?_eq_of_append_eq {level : Nat} {a b : Json} {r s : Text} (hr : Ends r)
    (hs : Ends s) (h : prettyAt level a ++ r = prettyAt level b ++ s) :
    a.opening? = b.opening? := by
  rw [← filter_head?_prettyAt level a hr, h, filter_head?_prettyAt level b hs]

/-! ### The theorem -/

theorem tells_bare {level : Nat} {a : Json} (ha : a.opening? = none) :
    Tells (prettyAt level) shown a := by
  intro b r s hr hs h
  have hb : b.opening? = none := (opening?_eq_of_append_eq hr hs h).symm.trans ha
  obtain ⟨t, ht, hshown, hpretty⟩ := exists_bare ha
  obtain ⟨u, hu, hshown', hpretty'⟩ := exists_bare hb
  rw [hpretty, hpretty'] at h
  obtain ⟨rfl, hrs⟩ := bare_append_inj ht hu hr hs h
  exact ⟨hshown.trans hshown'.symm, hrs⟩

theorem tells_text {level : Nat} (t : Text) : Tells (prettyAt level) shown (.text t) := by
  intro b r s hr hs h
  have hb := opening?_eq_of_append_eq hr hs h
  cases b with
  | text u =>
    obtain ⟨rfl, hrs⟩ := quoted_append_inj h
    exact ⟨rfl, hrs⟩
  | natural n => cases hb
  | real x => cases hb
  | list items => cases hb
  | object fields => cases hb

theorem tells_list {level : Nat} {items : List Json}
    (hitems : ∀ item ∈ items, Tells (prettyAt (level + 1)) shown item) :
    Tells (prettyAt level) shown (.list items) := by
  intro b r s hr hs h
  have hb := opening?_eq_of_append_eq hr hs h
  cases b with
  | list others =>
    simp only [prettyAt, prettyItems_eq_map] at h
    obtain ⟨hshown, hrs⟩ := block_append_inj (by decide) hitems h
    refine ⟨?_, hrs⟩
    rw [shown, shown, shownItems_eq_map, shownItems_eq_map, hshown]
  | natural n => cases hb
  | real x => cases hb
  | text t => cases hb
  | object fields => cases hb

theorem tells_object {level : Nat} {fields : List (Text × Json)}
    (hfields : ∀ field ∈ fields, Tells (fieldAt (level + 1)) shownField field) :
    Tells (prettyAt level) shown (.object fields) := by
  intro b r s hr hs h
  have hb := opening?_eq_of_append_eq hr hs h
  cases b with
  | object others =>
    simp only [prettyAt, prettyFields_eq_map] at h
    obtain ⟨hshown, hrs⟩ := block_append_inj (by decide) hfields h
    refine ⟨?_, hrs⟩
    rw [shown, shown, shownFields_eq_map, shownFields_eq_map, hshown]
  | natural n => cases hb
  | real x => cases hb
  | text t => cases hb
  | list items => cases hb

theorem tells_fieldAt {level : Nat} {field : Text × Json}
    (h : Tells (prettyAt level) shown field.2) : Tells (fieldAt level) shownField field := by
  intro other r s hr hs heq
  simp only [fieldAt, List.append_assoc] at heq
  -- the name has its own closing quote, and the value ends where the field does
  obtain ⟨hname, hrest⟩ := quoted_append_inj heq
  obtain ⟨hvalue, hrs⟩ := h hr hs (List.append_cancel_left hrest)
  exact ⟨Prod.ext hname hvalue, hrs⟩

mutual

/-- **An indented value tells what it shows.** -/
theorem tells_prettyAt : ∀ (a : Json) (level : Nat), Tells (prettyAt level) shown a
  | .natural _, _ => tells_bare rfl
  | .real _, _ => tells_bare rfl
  | .text t, _ => tells_text t
  | .list items, level => tells_list (tells_items items (level + 1))
  | .object fields, level => tells_object (tells_fields fields (level + 1))

theorem tells_items : ∀ (items : List Json) (level : Nat),
    ∀ item ∈ items, Tells (prettyAt level) shown item
  | [], _ => fun _ h => absurd h List.not_mem_nil
  | item :: items, level =>
    List.forall_mem_cons.mpr ⟨tells_prettyAt item level, tells_items items level⟩

theorem tells_fields : ∀ (fields : List (Text × Json)) (level : Nat),
    ∀ field ∈ fields, Tells (fieldAt level) shownField field
  | [], _ => fun _ h => absurd h List.not_mem_nil
  | (_, value) :: fields, level =>
    List.forall_mem_cons.mpr ⟨tells_fieldAt (tells_prettyAt value level), tells_fields fields level⟩

end

/-- **An indented text tells what its value shows.** -/
theorem pretty_append_inj {a b : Json} {r s : Text} (hr : Ends r) (hs : Ends s)
    (h : a.pretty ++ r = b.pretty ++ s) : a.shown = b.shown ∧ r = s :=
  tells_prettyAt a 0 hr hs h

end Json

end Questionnaire
