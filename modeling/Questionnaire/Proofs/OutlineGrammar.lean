import Mathlib.Computability.RegularExpressions
import Mathlib.Data.Set.List
import Questionnaire.Template.Outline

/-!
# The grammar of outlines

The keys of an outline follow a regular grammar over six letters, one for each
kind of key.  A script is a word of the grammar with the texts of its keys, taken
apart into its pieces; it says which questions and which rules it stands for.

## Main definitions

* `Side`, `Letter`, `Mark.letter` — the kinds of keys.
* `outlineGrammar` — the regular grammar.
* `OptionGroup`, `Piece`, `Ending`, `Script` — a word of the grammar taken apart.
* `Script.written` — the keys of a script with their texts.
* `Script.questions`, `Script.rules` — what a script stands for.

## Main results

* `Denotes.star`, `Denotes.mul`, `Denotes.add` — a regular expression and the parts
  that its words are made of.
* `mem_outlineGrammar_iff` — the words of the grammar are those that scripts
  write.
-/

namespace Questionnaire

open RegularExpression

/-! ### Letters -/

/-- The two halves of an alias rule. -/
inductive Side where
  /-- What the rule is found under. -/
  | triggers
  /-- What the rule brings in. -/
  | dependents
  deriving DecidableEq, Repr

namespace Side

/-- The half that completes a rule. -/
def other : Side → Side
  | .triggers => .dependents
  | .dependents => .triggers

/-- The key of a half. -/
def mark : Side → Mark
  | .triggers => .aliasFrom
  | .dependents => .aliasTo

/-- The rule made of one half and of the half given before it. -/
def complete (side : Side) (text earlier : Text) (rules : RuleTable) : RuleTable :=
  match side with
  | .triggers => rules.addRule text earlier
  | .dependents => rules.addRule earlier text

end Side

/-- The kinds of keys that the grammar tells apart. -/
inductive Letter where
  /-- A question without options. -/
  | prompt
  /-- A question with options. -/
  | choice
  /-- The label of an option. -/
  | label
  /-- The tag of an option. -/
  | tag
  /-- Half a rule. -/
  | half (side : Side)
  deriving DecidableEq, Repr

/-- The kind of a key. -/
def Mark.letter : Mark → Letter
  | .prompt _ => .prompt
  | .choice _ => .choice
  | .optionName => .label
  | .optionTag => .tag
  | .aliasFrom => .half .triggers
  | .aliasTo => .half .dependents

/-- Keys of an outline with their texts. -/
abbrev Passage := List (Mark × Text)

/-- The kinds of the keys of a passage. -/
def Passage.letters (w : Passage) : List Letter := w.map (·.1.letter)

/-! ### The grammar -/

/-- One or more times. -/
def oneOrMore (r : RegularExpression Letter) : RegularExpression Letter := r.star * r

/-- Labels and the tag of the last of them; a tag alone is label and tag in one. -/
def groupGrammar : RegularExpression Letter := (char .label).star * char .tag

/-- Half a rule, given any number of times before it counts, and then the other half. -/
def ruleGrammar (side : Side) : RegularExpression Letter :=
  oneOrMore (char (.half side)) * char (.half side.other)

/-- What is complete in itself: a prompt, a rule that begins with either half, or a
choice whose options end in a tag. -/
def pieceGrammar : RegularExpression Letter :=
  char .prompt + ruleGrammar .triggers + ruleGrammar .dependents +
    char .choice * oneOrMore groupGrammar

/-- What may be left open at the end: nothing, half a rule, or a choice. -/
def endingGrammar : RegularExpression Letter :=
  1 + oneOrMore (char (.half .triggers)) + oneOrMore (char (.half .dependents)) +
    char .choice * groupGrammar.star * (char .label).star

/-- The grammar of outlines. -/
def outlineGrammar : RegularExpression Letter := pieceGrammar.star * endingGrammar

/-! ### Scripts -/

/-- Labels and the tag that closes them. -/
structure OptionGroup where
  /-- The labels. -/
  labels : List Text
  /-- The tag. -/
  tag : Text

/-- The tag belongs to the last label, and is its own label if there is none. -/
def taggedAnswers : List Text → Text → List Answer
  | [], tag => [⟨tag, tag⟩]
  | [label], tag => [⟨label, tag⟩]
  | label :: labels, tag => ⟨label, []⟩ :: taggedAnswers labels tag

/-- Labels that no tag follows. -/
def untaggedAnswers (labels : List Text) : List Answer := labels.map (⟨·, []⟩)

/-- The keys of labels. -/
def labelPassage (labels : List Text) : Passage := labels.map (.optionName, ·)

/-- The keys of half a rule, given many times. -/
def halfPassage (side : Side) (texts : List Text) : Passage := texts.map (side.mark, ·)

namespace OptionGroup

/-- The keys of a group. -/
def written (g : OptionGroup) : Passage := labelPassage g.labels ++ [(.optionTag, g.tag)]

/-- The options of a group. -/
def answers (g : OptionGroup) : List Answer := taggedAnswers g.labels g.tag

end OptionGroup

/-- A part of an outline that is complete in itself. -/
inductive Piece where
  /-- A question without options. -/
  | prompt (kind : Prompt) (text : Text)
  /-- A rule; of the half that comes first only the last text counts. -/
  | rule (side : Side) (earlier : List Text) (first second : Text)
  /-- A question with options, in one group or more. -/
  | choice (kind : Choice) (text : Text) (groups : List OptionGroup) (last : OptionGroup)

namespace Piece

/-- The keys of a piece. -/
def written : Piece → Passage
  | .prompt kind text => [(.prompt kind, text)]
  | .rule side earlier first second =>
    halfPassage side earlier ++ [(side.mark, first), (side.other.mark, second)]
  | .choice kind text groups last =>
    (.choice kind, text) :: (groups.flatMap OptionGroup.written ++ last.written)

/-- The questions of a piece. -/
def questions : Piece → List Question
  | .prompt kind text => [.prompt kind text]
  | .rule _ _ _ _ => []
  | .choice kind text groups last =>
    [.choice kind text (groups.flatMap OptionGroup.answers ++ last.answers)]

/-- The rules with those of a piece added. -/
def addTo (rules : RuleTable) : Piece → RuleTable
  | .prompt _ _ => rules
  | .rule side _ first second => side.other.complete second first rules
  | .choice _ _ _ _ => rules

end Piece

/-- What is left open at the end of an outline. -/
inductive Ending where
  /-- Nothing. -/
  | nothing
  /-- Half a rule. -/
  | half (side : Side) (earlier : List Text) (first : Text)
  /-- A choice, with labels that no tag follows. -/
  | choice (kind : Choice) (text : Text) (groups : List OptionGroup) (labels : List Text)

namespace Ending

/-- The keys of an ending. -/
def written : Ending → Passage
  | .nothing => []
  | .half side earlier first => halfPassage side earlier ++ [(side.mark, first)]
  | .choice kind text groups labels =>
    (.choice kind, text) :: (groups.flatMap OptionGroup.written ++ labelPassage labels)

/-- The questions of an ending. -/
def questions : Ending → List Question
  | .nothing => []
  | .half _ _ _ => []
  | .choice kind text groups labels =>
    [.choice kind text (groups.flatMap OptionGroup.answers ++ untaggedAnswers labels)]

end Ending

/-- An outline taken apart. -/
structure Script where
  /-- The parts that are complete. -/
  pieces : List Piece
  /-- What is left open. -/
  ending : Ending

namespace Script

/-- The keys of a script. -/
def written (s : Script) : Passage := s.pieces.flatMap Piece.written ++ s.ending.written

/-- The questions of a script: those of its pieces in order, and the open one. -/
def questions (s : Script) : List Question :=
  s.pieces.flatMap Piece.questions ++ s.ending.questions

/-- The rules of a script: those of its pieces in order.  A rule of which only one half is
given does not count. -/
def rules (s : Script) : RuleTable := s.pieces.foldl Piece.addTo .empty

end Script

/-! ### Regular expressions and their parts -/

/-- The words over the letters of a regular expression are those that the parts of a
kind write. -/
def Denotes {α : Type} (r : RegularExpression Letter) (written : α → Passage) : Prop :=
  ∀ w : Passage, w.letters ∈ r.matches' ↔ ∃ a, written a = w

namespace Denotes

variable {α β : Type} {r q : RegularExpression Letter} {f : α → Passage} {g : β → Passage}

/-- The parts may be given in another form. -/
theorem congr (h : Denotes r f) (hfg : ∀ a, ∃ b, g b = f a) (hgf : ∀ b, ∃ a, f a = g b) :
    Denotes r g := by
  intro w
  rw [h w]
  constructor
  · rintro ⟨a, rfl⟩
    exact hfg a
  · rintro ⟨b, rfl⟩
    exact hgf b

theorem add (hr : Denotes r f) (hq : Denotes q g) : Denotes (r + q) (Sum.elim f g) := by
  intro w
  rw [matches'_add, Language.mem_add, hr w, hq w, Sum.exists]
  rfl

theorem mul (hr : Denotes r f) (hq : Denotes q g) :
    Denotes (r * q) fun p : α × β => f p.1 ++ g p.2 := by
  intro w
  rw [matches'_mul, Language.mem_mul]
  constructor
  · rintro ⟨u, hu, v, hv, huv⟩
    -- letters come from keys one by one, so the passage is cut where its letters are
    obtain ⟨w₁, w₂, rfl, rfl, rfl⟩ := List.map_eq_append_iff.mp huv.symm
    obtain ⟨a, rfl⟩ := (hr w₁).mp hu
    obtain ⟨b, rfl⟩ := (hq w₂).mp hv
    exact ⟨(a, b), rfl⟩
  · rintro ⟨⟨a, b⟩, rfl⟩
    exact ⟨_, (hr (f a)).mpr ⟨a, rfl⟩, _, (hq (g b)).mpr ⟨b, rfl⟩, (List.map_append ..).symm⟩

theorem star (hr : Denotes r f) : Denotes r.star (List.flatMap f) := by
  intro w
  rw [matches'_star, Language.mem_kstar]
  constructor
  · rintro ⟨us, hw, hus⟩
    -- each word of the star takes its keys off the front of the passage
    induction us generalizing w with
    | nil =>
      obtain rfl : w = [] := List.map_eq_nil_iff.mp hw
      exact ⟨[], rfl⟩
    | cons u us ih =>
      obtain ⟨w₁, w₂, rfl, rfl, hw₂⟩ := List.map_eq_append_iff.mp hw
      obtain ⟨a, rfl⟩ := (hr w₁).mp (hus _ List.mem_cons_self)
      obtain ⟨as, rfl⟩ := ih w₂ hw₂ fun y hy => hus y (List.mem_cons_of_mem _ hy)
      exact ⟨a :: as, rfl⟩
  · rintro ⟨as, rfl⟩
    refine ⟨as.map fun a => (f a).letters, ?_, ?_⟩
    · unfold Passage.letters
      rw [List.map_flatMap, List.flatMap_def]
    · intro y hy
      obtain ⟨a, -, rfl⟩ := List.mem_map.mp hy
      exact (hr (f a)).mpr ⟨a, rfl⟩

theorem one : Denotes 1 fun _ : Unit => [] := by
  intro w
  rw [matches'_epsilon, Language.mem_one]
  unfold Passage.letters
  rw [List.map_eq_nil_iff]
  exact ⟨fun h => ⟨(), h.symm⟩, fun ⟨_, h⟩ => h.symm⟩

/-- A letter stands for one key of its kind. -/
theorem char {l : Letter} {m : α → Mark} (h : ∀ mark : Mark, mark.letter = l ↔ ∃ a, m a = mark) :
    Denotes (char l) fun p : α × Text => [(m p.1, p.2)] := by
  intro w
  rw [matches'_char]
  constructor
  · intro hw
    obtain ⟨⟨mark, text⟩, rfl, hl⟩ := List.map_eq_singleton_iff.mp hw
    obtain ⟨a, rfl⟩ := (h mark).mp hl
    exact ⟨(a, text), rfl⟩
  · rintro ⟨⟨a, text⟩, rfl⟩
    have hl : (m a).letter = l := (h (m a)).mpr ⟨a, rfl⟩
    exact congrArg (fun l => [l]) hl

theorem char_mark {l : Letter} {mark : Mark} (h : ∀ k : Mark, k.letter = l ↔ k = mark) :
    Denotes (.char l) fun text : Text => [(mark, text)] := by
  have hu : ∀ k : Mark, k.letter = l ↔ ∃ _ : Unit, mark = k := by
    intro k
    rw [h k, exists_const]
    exact eq_comm
  exact (char hu).congr (fun p => ⟨p.2, rfl⟩) fun text => ⟨((), text), rfl⟩

end Denotes

/-! ### The parts of the grammar -/

theorem Mark.letter_eq_half_iff {k : Mark} {side : Side} :
    k.letter = .half side ↔ k = side.mark := by
  cases k <;> cases side <;> simp [letter, Side.mark]

theorem denotes_prompt : Denotes (char .prompt) fun p : Prompt × Text => [(.prompt p.1, p.2)] :=
  Denotes.char fun mark => by cases mark <;> simp [Mark.letter]

theorem denotes_choice : Denotes (char .choice) fun p : Choice × Text => [(.choice p.1, p.2)] :=
  Denotes.char fun mark => by cases mark <;> simp [Mark.letter]

theorem denotes_label : Denotes (char .label) fun text : Text => [(.optionName, text)] :=
  Denotes.char_mark fun mark => by cases mark <;> simp [Mark.letter]

theorem denotes_tag : Denotes (char .tag) fun text : Text => [(.optionTag, text)] :=
  Denotes.char_mark fun mark => by cases mark <;> simp [Mark.letter]

theorem denotes_half (side : Side) :
    Denotes (char (.half side)) fun text : Text => [(side.mark, text)] :=
  Denotes.char_mark fun _ => Mark.letter_eq_half_iff

theorem denotes_labels : Denotes (char .label).star labelPassage := by
  have h : ∀ labels, labels.flatMap (fun text : Text => [(Mark.optionName, text)]) =
      labelPassage labels := fun labels => List.flatMap_pure_eq_map _ labels
  exact denotes_label.star.congr (fun a => ⟨a, (h a).symm⟩) fun b => ⟨b, h b⟩

theorem denotes_halves (side : Side) : Denotes (char (.half side)).star (halfPassage side) := by
  have h : ∀ texts, texts.flatMap (fun text : Text => [(side.mark, text)]) =
      halfPassage side texts := fun texts => List.flatMap_pure_eq_map _ texts
  exact (denotes_half side).star.congr (fun a => ⟨a, (h a).symm⟩) fun b => ⟨b, h b⟩

theorem denotes_group : Denotes groupGrammar OptionGroup.written :=
  (denotes_labels.mul denotes_tag).congr (fun p => ⟨⟨p.1, p.2⟩, rfl⟩) fun g =>
    ⟨(g.labels, g.tag), rfl⟩

theorem denotes_oneOrMore_half (side : Side) : Denotes (oneOrMore (char (.half side)))
    fun p : List Text × Text => halfPassage side p.1 ++ [(side.mark, p.2)] :=
  (denotes_halves side).mul (denotes_half side)

theorem denotes_rule (side : Side) : Denotes (ruleGrammar side)
    fun p : List Text × Text × Text => (Piece.rule side p.1 p.2.1 p.2.2).written := by
  refine ((denotes_oneOrMore_half side).mul (denotes_half side.other)).congr ?_ ?_
  · rintro ⟨⟨earlier, first⟩, second⟩
    exact ⟨(earlier, first, second), by simp [Piece.written]⟩
  · rintro ⟨earlier, first, second⟩
    exact ⟨((earlier, first), second), by simp [Piece.written]⟩

theorem denotes_piece : Denotes pieceGrammar Piece.written := by
  have hchoice := denotes_choice.mul (denotes_group.star.mul denotes_group)
  refine (((denotes_prompt.add (denotes_rule .triggers)).add (denotes_rule .dependents)).add
    hchoice).congr ?_ ?_
  · rintro (((⟨kind, text⟩ | ⟨earlier, first, second⟩) | ⟨earlier, first, second⟩) |
      ⟨⟨kind, text⟩, groups, last⟩)
    · exact ⟨.prompt kind text, rfl⟩
    · exact ⟨.rule .triggers earlier first second, rfl⟩
    · exact ⟨.rule .dependents earlier first second, rfl⟩
    · exact ⟨.choice kind text groups last, rfl⟩
  · rintro (⟨kind, text⟩ | ⟨side, earlier, first, second⟩ | ⟨kind, text, groups, last⟩)
    · exact ⟨.inl (.inl (.inl (kind, text))), rfl⟩
    · cases side with
      | triggers => exact ⟨.inl (.inl (.inr (earlier, first, second))), rfl⟩
      | dependents => exact ⟨.inl (.inr (earlier, first, second)), rfl⟩
    · exact ⟨.inr ((kind, text), groups, last), rfl⟩

theorem denotes_ending : Denotes endingGrammar Ending.written := by
  have hchoice := (denotes_choice.mul denotes_group.star).mul denotes_labels
  refine (((Denotes.one.add (denotes_oneOrMore_half .triggers)).add
    (denotes_oneOrMore_half .dependents)).add hchoice).congr ?_ ?_
  · rintro (((_ | ⟨earlier, first⟩) | ⟨earlier, first⟩) | ⟨⟨⟨kind, text⟩, groups⟩, labels⟩)
    · exact ⟨.nothing, rfl⟩
    · exact ⟨.half .triggers earlier first, rfl⟩
    · exact ⟨.half .dependents earlier first, rfl⟩
    · exact ⟨.choice kind text groups labels, rfl⟩
  · rintro (_ | ⟨side, earlier, first⟩ | ⟨kind, text, groups, labels⟩)
    · exact ⟨.inl (.inl (.inl ())), rfl⟩
    · cases side with
      | triggers => exact ⟨.inl (.inl (.inr (earlier, first))), rfl⟩
      | dependents => exact ⟨.inl (.inr (earlier, first)), rfl⟩
    · exact ⟨.inr (((kind, text), groups), labels), rfl⟩

/-- **The words of the grammar are those that scripts write.** -/
theorem mem_outlineGrammar_iff (w : Passage) :
    w.letters ∈ outlineGrammar.matches' ↔ ∃ script : Script, script.written = w := by
  have h : Denotes outlineGrammar Script.written :=
    (denotes_piece.star.mul denotes_ending).congr (fun p => ⟨⟨p.1, p.2⟩, rfl⟩)
      fun s => ⟨(s.pieces, s.ending), rfl⟩
  exact h w

end Questionnaire
