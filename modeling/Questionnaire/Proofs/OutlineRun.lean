import Mathlib.Data.List.Induction
import Questionnaire.Proofs.OutlineGrammar
import Questionnaire.Proofs.Success

/-!
# Runs over outlines

Building an outline key by key succeeds on the passages that scripts write, if no
tag has a blank in it, and on no others; and it builds the questions and rules
of the script.

## Main definitions

* `Outline.run` — an outline after further keys.
* `Passage.TagsUnbroken` — no tag has a blank in it.
* `Script.outline` — the outline that a script stands for.

## Main results

* `Outline.step_half_of_ready`, `Outline.step_half_same`, `Outline.step_half_other` — what
  either half of a rule does.
* `Script.exists_step` — a key that fits leads from one script to another.
* `Outline.run_script`, `Script.exists_of_run` — the two directions.
* `Outline.exists_run_iff` — which passages are accepted.
-/

namespace Questionnaire

open Text

/-! ### Steps -/

namespace Side

/-- The stage in which one half of a rule is given. -/
def given : Side → Text → Stage
  | .triggers, text => .triggersGiven text
  | .dependents, text => .dependentsGiven text

theorem eq_other_of_ne {side side' : Side} (h : side' ≠ side) : side' = side.other := by
  cases side <;> cases side' <;> first | rfl | exact absurd rfl h

@[simp] theorem other_other (side : Side) : side.other.other = side := by
  cases side <;> rfl

end Side

namespace Outline

theorem ask_of_ready {o : Outline} (h : o.ready = true) (question : Question) (stage : Stage) :
    o.ask question stage = .ok ⟨stage, o.questions ++ [question], o.rules⟩ := by
  rw [ask, if_pos h]

theorem step_prompt_of_ready {o : Outline} (h : o.ready = true) (kind : Prompt) (text : Text) :
    o.step (.prompt kind) text = .ok ⟨.settled, o.questions ++ [.prompt kind text], o.rules⟩ :=
  ask_of_ready h _ _

theorem step_choice_of_ready {o : Outline} (h : o.ready = true) (kind : Choice) (text : Text) :
    o.step (.choice kind) text =
      .ok ⟨.inChoice, o.questions ++ [.choice kind text []], o.rules⟩ :=
  ask_of_ready h _ _

theorem ready_of_ask {o o' : Outline} {question : Question} {stage : Stage}
    (h : o.ask question stage = .ok o') :
    o.ready = true ∧ o' = ⟨stage, o.questions ++ [question], o.rules⟩ := by
  by_cases hready : o.ready = true
  · rw [ask_of_ready hready] at h
    exact ⟨hready, (Except.ok.inj h).symm⟩
  · rw [ask, if_neg hready] at h
    cases h

theorem not_ready_given (side : Side) (text : Text) (questions : List Question)
    (rules : RuleTable) : ready ⟨side.given text, questions, rules⟩ = false := by
  cases side <;> rfl

theorem step_half_other (side : Side) (text earlier : Text) (questions : List Question)
    (rules : RuleTable) :
    step side.mark text ⟨side.other.given earlier, questions, rules⟩ =
      .ok ⟨.settled, questions, side.complete text earlier rules⟩ := by
  cases side <;> rfl

/-- The same half again takes the place of the one before. -/
theorem step_half_same (side : Side) (text earlier : Text) (questions : List Question)
    (rules : RuleTable) :
    step side.mark text ⟨side.given earlier, questions, rules⟩ =
      .ok ⟨side.given text, questions, rules⟩ := by
  cases side <;> rfl

theorem step_half_of_ready (side : Side) (text : Text) {o : Outline} (h : o.ready = true) :
    o.step side.mark text = .ok ⟨side.given text, o.questions, o.rules⟩ := by
  obtain ⟨stage, questions, rules⟩ := o
  cases stage with
  | triggersGiven _ => exact absurd h (by rw [← Side.given, not_ready_given]; simp)
  | dependentsGiven _ => exact absurd h (by rw [← Side.given, not_ready_given]; simp)
  | settled => cases side <;> rfl
  | inChoice =>
    cases side
    · simp only [step, Side.mark, addTriggers, if_pos h, Side.given]
    · simp only [step, Side.mark, addDependents, if_pos h, Side.given]
  | inLabel => exact absurd h (by simp [ready])

/-- Within a choice a rule begins only where the outline is ready. -/
theorem ready_of_step_half {o o' : Outline} {side : Side} {text : Text}
    (h : o.step side.mark text = .ok o') (hstage : o.stage = .inChoice ∨ o.stage = .inLabel) :
    o.ready = true := by
  by_contra hready
  obtain ⟨stage, questions, rules⟩ := o
  rcases hstage with rfl | rfl
  · cases side <;> simp [step, Side.mark, addTriggers, addDependents, hready] at h
  · cases side <;> simp [step, Side.mark, addTriggers, addDependents, hready] at h

/-- The stage behind labels that wait for a tag. -/
def labelStage (labels : List Text) : Stage := if labels.isEmpty then .inChoice else .inLabel

theorem labelStage_or (labels : List Text) :
    labelStage labels = .inChoice ∨ labelStage labels = .inLabel := by
  unfold labelStage
  split
  · exact Or.inl rfl
  · exact Or.inr rfl

theorem changeOptions_choice (f : List Answer → List Answer) (stage before : Stage)
    (questions : List Question) (kind : Choice) (text : Text) (options : List Answer)
    (rules : RuleTable) :
    changeOptions f stage ⟨before, questions ++ [.choice kind text options], rules⟩ =
      .ok ⟨stage, questions ++ [.choice kind text (f options)], rules⟩ := by
  simp [changeOptions]

variable (questions : List Question) (kind : Choice) (text : Text) (options : List Answer)
  (rules : RuleTable)

/-- A label joins those that wait for a tag. -/
theorem step_label (labels : List Text) (name : Text) :
    step .optionName name ⟨labelStage labels,
        questions ++ [.choice kind text (options ++ untaggedAnswers labels)], rules⟩ =
      .ok ⟨labelStage (labels ++ [name]),
        questions ++ [.choice kind text (options ++ untaggedAnswers (labels ++ [name]))],
        rules⟩ := by
  have hstage : labelStage (labels ++ [name]) = .inLabel := by simp [labelStage]
  simp only [step, addLabel]
  rw [if_pos (labelStage_or labels), changeOptions_choice, hstage]
  simp [untaggedAnswers]

/-- The last of some labels gets the tag. -/
theorem taggedAnswers_concat (labels : List Text) (label tag : Text) :
    taggedAnswers (labels ++ [label]) tag = untaggedAnswers labels ++ [⟨label, tag⟩] := by
  induction labels with
  | nil => rfl
  | cons l labels ih =>
    cases labels with
    | nil => rfl
    | cons m labels =>
      have h : taggedAnswers (l :: m :: (labels ++ [label])) tag =
          ⟨l, []⟩ :: taggedAnswers (m :: labels ++ [label]) tag := by
        rw [taggedAnswers]
        · rfl
        · simp
      rw [List.cons_append, List.cons_append, h, ih]
      rfl

/-- A tag closes the labels that wait for it. -/
theorem step_tag (labels : List Text) {tag : Text} (htag : tag.any isBlank = false) :
    step .optionTag tag ⟨labelStage labels,
        questions ++ [.choice kind text (options ++ untaggedAnswers labels)], rules⟩ =
      .ok ⟨.inChoice, questions ++ [.choice kind text (options ++ taggedAnswers labels tag)],
        rules⟩ := by
  simp only [step, addTag]
  rw [if_pos (labelStage_or labels), htag, if_neg (by simp)]
  -- without a label the tag is an option of its own, and else it goes to the last label
  rcases List.eq_nil_or_concat labels with rfl | ⟨init, label, rfl⟩
  · rw [if_neg (by simp [labelStage]), changeOptions_choice]
    simp [untaggedAnswers, taggedAnswers]
  · rw [List.concat_eq_append, if_pos (by simp [labelStage]), changeOptions_choice,
      taggedAnswers_concat]
    simp [untaggedAnswers, tagLast]

/-- Labels and tags are refused outside of a choice. -/
theorem stage_of_step_label {o o' : Outline} {name : Text}
    (h : o.step .optionName name = .ok o') : o.stage = .inChoice ∨ o.stage = .inLabel := by
  by_contra hstage
  simp only [step, addLabel] at h
  rw [if_neg hstage] at h
  cases h

theorem stage_of_step_tag {o o' : Outline} {tag : Text} (h : o.step .optionTag tag = .ok o') :
    (o.stage = .inChoice ∨ o.stage = .inLabel) ∧ tag.any isBlank = false := by
  simp only [step, addTag] at h
  split at h
  · next hstage =>
    refine ⟨hstage, ?_⟩
    by_contra hblank
    rw [if_pos (by simpa using hblank)] at h
    cases h
  · cases h

/-! ### Runs -/

/-- The outline after further keys, up to the first that does not fit. -/
def run (w : Passage) (o : Outline) : Except OutlineFault Outline :=
  w.foldlM (fun o key => o.step key.1 key.2) o

theorem run_append {w : Passage} {o o' : Outline} (h : run w o = .ok o') (v : Passage) :
    run (w ++ v) o = run v o' := by
  unfold run at *
  rw [List.foldlM_append, h]
  rfl

theorem run_cons {mark : Mark} {value : Text} {o o' : Outline} (h : o.step mark value = .ok o')
    (v : Passage) : run ((mark, value) :: v) o = run v o' := by
  unfold run
  rw [List.foldlM_cons, h]
  rfl

theorem run_singleton {mark : Mark} {value : Text} {o o' : Outline}
    (h : o.step mark value = .ok o') : run [(mark, value)] o = .ok o' := run_cons h []

theorem run_labels (labels before : List Text) :
    run (labelPassage labels) ⟨labelStage before,
        questions ++ [.choice kind text (options ++ untaggedAnswers before)], rules⟩ =
      .ok ⟨labelStage (before ++ labels),
        questions ++ [.choice kind text (options ++ untaggedAnswers (before ++ labels))],
        rules⟩ := by
  induction labels generalizing before with
  | nil => rw [List.append_nil]; rfl
  | cons label labels ih =>
    rw [labelPassage, List.map_cons, run_cons (step_label _ _ _ _ _ before label), ← labelPassage,
      ih, List.append_assoc]
    rfl

end Outline

/-- No tag has a blank in it. -/
def Passage.TagsUnbroken (w : Passage) : Prop :=
  ∀ key ∈ w, key.1 = .optionTag → key.2.any isBlank = false

namespace Passage

theorem TagsUnbroken.left {w v : Passage} (h : TagsUnbroken (w ++ v)) : TagsUnbroken w :=
  fun key hkey => h key (List.mem_append_left v hkey)

theorem TagsUnbroken.right {w v : Passage} (h : TagsUnbroken (w ++ v)) : TagsUnbroken v :=
  fun key hkey => h key (List.mem_append_right w hkey)

end Passage

namespace Outline

section

variable (questions : List Question) (kind : Choice) (text : Text) (options : List Answer)
  (rules : RuleTable)

theorem run_group {g : OptionGroup} (hg : Passage.TagsUnbroken g.written) :
    run g.written ⟨.inChoice, questions ++ [.choice kind text options], rules⟩ =
      .ok ⟨.inChoice, questions ++ [.choice kind text (options ++ g.answers)], rules⟩ := by
  have hlabels := run_labels questions kind text options rules g.labels []
  have htag : g.tag.any isBlank = false :=
    hg (.optionTag, g.tag) (List.mem_append_right _ (List.mem_singleton_self _)) rfl
  rw [show untaggedAnswers [] = [] from rfl, show labelStage [] = .inChoice from rfl,
    List.append_nil, List.nil_append] at hlabels
  rw [OptionGroup.written, run_append hlabels]
  exact run_singleton (step_tag questions kind text options rules g.labels htag)

/-- A run over groups adds the options of all. -/
theorem run_groups {groups : List OptionGroup}
    (hgroups : Passage.TagsUnbroken (groups.flatMap OptionGroup.written)) :
    run (groups.flatMap OptionGroup.written)
        ⟨.inChoice, questions ++ [.choice kind text options], rules⟩ =
      .ok ⟨.inChoice,
        questions ++ [.choice kind text (options ++ groups.flatMap OptionGroup.answers)],
        rules⟩ := by
  induction groups generalizing options with
  | nil => rw [List.flatMap_nil, List.flatMap_nil, List.append_nil]; rfl
  | cons g groups ih =>
    rw [List.flatMap_cons] at hgroups ⊢
    rw [run_append (run_group questions kind text options rules hgroups.left), ih _ hgroups.right,
      List.flatMap_cons, List.append_assoc]

end

/-- A run over one half of a rule, given any number of times, keeps the last text. -/
theorem run_halves_given (side : Side) (earlier : List Text) (first text : Text)
    (questions : List Question) (rules : RuleTable) :
    run (halfPassage side earlier ++ [(side.mark, first)]) ⟨side.given text, questions, rules⟩ =
      .ok ⟨side.given first, questions, rules⟩ := by
  induction earlier generalizing text with
  | nil => exact run_singleton (step_half_same side first text questions rules)
  | cons t earlier ih =>
    rw [halfPassage, List.map_cons, List.cons_append,
      run_cons (step_half_same side t text questions rules)]
    exact ih t

theorem run_halves {o : Outline} (ho : o.ready = true) (side : Side) (earlier : List Text)
    (first : Text) : run (halfPassage side earlier ++ [(side.mark, first)]) o =
      .ok ⟨side.given first, o.questions, o.rules⟩ := by
  cases earlier with
  | nil => exact run_singleton (step_half_of_ready side first ho)
  | cons t earlier =>
    rw [halfPassage, List.map_cons, List.cons_append, run_cons (step_half_of_ready side t ho)]
    exact run_halves_given side earlier first t o.questions o.rules

/-! ### Scripts are accepted -/

theorem taggedAnswers_ne_nil (labels : List Text) (tag : Text) : taggedAnswers labels tag ≠ [] := by
  rcases List.eq_nil_or_concat labels with rfl | ⟨init, label, rfl⟩
  · simp [taggedAnswers]
  · simp [List.concat_eq_append, taggedAnswers_concat]

theorem run_choice {o : Outline} (ho : o.ready = true) (kind : Choice) (text : Text)
    {groups : List OptionGroup}
    (hgroups : Passage.TagsUnbroken (groups.flatMap OptionGroup.written)) :
    run ((.choice kind, text) :: groups.flatMap OptionGroup.written) o =
      .ok ⟨.inChoice,
        o.questions ++ [.choice kind text (groups.flatMap OptionGroup.answers)], o.rules⟩ := by
  rw [run_cons (step_choice_of_ready ho kind text),
    run_groups o.questions kind text [] o.rules hgroups]
  rfl

/-- A run over a piece adds what it stands for, and leaves the outline ready. -/
theorem run_piece {o : Outline} (ho : o.ready = true) {p : Piece}
    (hp : Passage.TagsUnbroken p.written) :
    ∃ stage, run p.written o = .ok ⟨stage, o.questions ++ p.questions, p.addTo o.rules⟩ ∧
      ready ⟨stage, o.questions ++ p.questions, p.addTo o.rules⟩ = true := by
  cases p with
  | prompt kind text =>
    exact ⟨.settled, run_singleton (step_prompt_of_ready ho kind text), rfl⟩
  | rule side earlier first second =>
    refine ⟨.settled, ?_, rfl⟩
    have hsecond := step_half_other side.other second first o.questions o.rules
    rw [Side.other_other] at hsecond
    rw [Piece.written, List.append_cons, run_append (run_halves ho side earlier first),
      run_singleton hsecond, Piece.questions, List.append_nil]
    rfl
  | choice kind text groups last =>
    have happ : (groups ++ [last]).flatMap OptionGroup.written =
        groups.flatMap OptionGroup.written ++ last.written := by simp
    have hans : (groups ++ [last]).flatMap OptionGroup.answers =
        groups.flatMap OptionGroup.answers ++ last.answers := by simp
    have hgroups : Passage.TagsUnbroken ((groups ++ [last]).flatMap OptionGroup.written) := by
      rw [happ]
      exact Passage.TagsUnbroken.right (w := [_]) hp
    have hrun := run_choice ho kind text hgroups
    rw [happ, hans] at hrun
    refine ⟨.inChoice, hrun, ?_⟩
    -- the last group has an option, so the choice is complete
    have hne : last.answers ≠ [] := taggedAnswers_ne_nil last.labels last.tag
    simp [ready, lastOptions?, Piece.questions, hne]

/-- A run over pieces adds what they stand for, and leaves the outline ready. -/
theorem run_pieces (pieces : List Piece) {o : Outline} (ho : o.ready = true)
    (hp : Passage.TagsUnbroken (pieces.flatMap Piece.written)) :
    ∃ o', run (pieces.flatMap Piece.written) o = .ok o' ∧ o'.ready = true ∧
      o'.questions = o.questions ++ pieces.flatMap Piece.questions ∧
      o'.rules = pieces.foldl Piece.addTo o.rules := by
  induction pieces generalizing o with
  | nil => exact ⟨o, rfl, ho, (List.append_nil _).symm, rfl⟩
  | cons p pieces ih =>
    rw [List.flatMap_cons] at hp ⊢
    obtain ⟨stage, hrun, hready⟩ := run_piece ho hp.left
    obtain ⟨o', hrun', hready', hquestions, hrules⟩ := ih hready hp.right
    refine ⟨o', by rw [run_append hrun, hrun'], hready', ?_, hrules⟩
    rw [hquestions, List.flatMap_cons, List.append_assoc]

/-- A run over an ending adds the question that it leaves open. -/
theorem run_ending (e : Ending) {o : Outline} (ho : o.ready = true)
    (he : Passage.TagsUnbroken e.written) :
    ∃ stage, run e.written o = .ok ⟨stage, o.questions ++ e.questions, o.rules⟩ := by
  cases e with
  | nothing =>
    refine ⟨o.stage, ?_⟩
    rw [Ending.questions, List.append_nil]
    rfl
  | half side earlier first =>
    refine ⟨side.given first, ?_⟩
    rw [Ending.questions, List.append_nil]
    exact run_halves ho side earlier first
  | choice kind text groups labels =>
    have hgroups : Passage.TagsUnbroken (groups.flatMap OptionGroup.written) :=
      (Passage.TagsUnbroken.right (w := [_]) he).left
    have hlabels := run_labels o.questions kind text (groups.flatMap OptionGroup.answers) o.rules
      labels []
    rw [show untaggedAnswers [] = [] from rfl, show labelStage [] = .inChoice from rfl,
      List.append_nil, List.nil_append] at hlabels
    refine ⟨labelStage labels, ?_⟩
    rw [Ending.written, ← List.cons_append, run_append (run_choice ho kind text hgroups), hlabels,
      Ending.questions]

/-- **A script is accepted, and builds what it stands for,** if no tag of it has a blank. -/
theorem run_script (s : Script) (hs : Passage.TagsUnbroken s.written) :
    ∃ stage, run s.written empty = .ok ⟨stage, s.questions, s.rules⟩ := by
  obtain ⟨o, hrun, hready, hquestions, hrules⟩ :=
    run_pieces s.pieces (o := empty) rfl hs.left
  obtain ⟨stage, hend⟩ := run_ending s.ending hready hs.right
  refine ⟨stage, ?_⟩
  rw [Script.written, run_append hrun, hend, hquestions, hrules]
  rfl

end Outline

/-! ### What is accepted is a script -/

/-- The stage that an ending leaves. -/
def Ending.stage : Ending → Stage
  | .nothing => .settled
  | .half side _ first => side.given first
  | .choice _ _ _ labels => Outline.labelStage labels

/-- The outline that a script stands for. -/
def Script.outline (s : Script) : Outline := ⟨s.ending.stage, s.questions, s.rules⟩

namespace Script

open Outline

/-- Where the outline is ready, the script is made of complete pieces. -/
theorem exists_pieces_of_ready {s : Script} (h : s.outline.ready = true) :
    ∃ pieces : List Piece, pieces.flatMap Piece.written = s.written ∧
      pieces.flatMap Piece.questions = s.questions ∧ pieces.foldl Piece.addTo .empty = s.rules := by
  obtain ⟨pieces, ending⟩ := s
  cases ending with
  | nothing => exact ⟨pieces, (List.append_nil _).symm, (List.append_nil _).symm, rfl⟩
  | half side earlier first =>
    exact absurd h (by rw [outline, Ending.stage, not_ready_given]; simp)
  | choice kind text groups labels =>
    cases labels with
    | cons l labels => exact absurd h (by simp [outline, Ending.stage, labelStage, ready])
    | nil =>
      -- the open choice has an option, so it has a last group
      rcases List.eq_nil_or_concat groups with rfl | ⟨groups, last, rfl⟩
      · exact absurd h (by simp [outline, Ending.stage, labelStage, ready, lastOptions?, questions,
          Ending.questions, untaggedAnswers])
      · rw [List.concat_eq_append]
        refine ⟨pieces ++ [.choice kind text groups last], ?_, ?_, ?_⟩
        · simp [written, Ending.written, Piece.written, labelPassage]
        · simp [questions, Ending.questions, Piece.questions, untaggedAnswers]
        · simp [rules, Piece.addTo]

/-- Where the outline is ready, something new may be left open. -/
theorem exists_ending {s : Script} (h : s.outline.ready = true) (e : Ending) :
    ∃ s' : Script, s'.written = s.written ++ e.written ∧
      s'.outline = ⟨e.stage, s.questions ++ e.questions, s.rules⟩ := by
  obtain ⟨pieces, hwritten, hquestions, hrules⟩ := exists_pieces_of_ready h
  refine ⟨⟨pieces, e⟩, ?_, ?_⟩
  · rw [written, hwritten]
  · rw [outline, questions, hquestions, rules, hrules]

theorem exists_prompt {s : Script} (h : s.outline.ready = true) (kind : Prompt) (text : Text) :
    ∃ s' : Script, s'.written = s.written ++ [(.prompt kind, text)] ∧
      s'.outline = ⟨.settled, s.questions ++ [.prompt kind text], s.rules⟩ := by
  obtain ⟨pieces, hwritten, hquestions, hrules⟩ := exists_pieces_of_ready h
  refine ⟨⟨pieces ++ [.prompt kind text], .nothing⟩, ?_, ?_⟩
  · simp [written, Ending.written, Piece.written, hwritten]
  · rw [outline, questions, rules, List.flatMap_append, List.foldl_append, hquestions, hrules]
    simp [Ending.stage, Ending.questions, Piece.questions, Piece.addTo]

/-- Only an open choice takes labels and tags. -/
theorem exists_choice_of_stage {s : Script}
    (h : s.outline.stage = .inChoice ∨ s.outline.stage = .inLabel) :
    ∃ kind text groups labels, s = ⟨s.pieces, .choice kind text groups labels⟩ := by
  obtain ⟨pieces, ending⟩ := s
  cases ending with
  | nothing => exact absurd h (by simp [outline, Ending.stage])
  | half side earlier first =>
    exact absurd h (by cases side <;> simp [outline, Ending.stage, Side.given])
  | choice kind text groups labels => exact ⟨kind, text, groups, labels, rfl⟩

theorem exists_label {s : Script} {name : Text} {o : Outline}
    (h : s.outline.step .optionName name = .ok o) :
    ∃ s' : Script, s'.written = s.written ++ [(.optionName, name)] ∧ s'.outline = o := by
  obtain ⟨kind, text, groups, labels, hs⟩ := exists_choice_of_stage (stage_of_step_label h)
  generalize s.pieces = pieces at hs
  subst hs
  refine ⟨⟨pieces, .choice kind text groups (labels ++ [name])⟩, ?_, ?_⟩
  · simp [written, Ending.written, labelPassage]
  · have hstep := step_label (pieces.flatMap Piece.questions) kind text
      (groups.flatMap OptionGroup.answers) (rules ⟨pieces, .nothing⟩) labels name
    exact Except.ok.inj (hstep.symm.trans h)

theorem exists_tag {s : Script} {tag : Text} {o : Outline}
    (h : s.outline.step .optionTag tag = .ok o) :
    ∃ s' : Script, s'.written = s.written ++ [(.optionTag, tag)] ∧ s'.outline = o := by
  obtain ⟨hstage, hunbroken⟩ := stage_of_step_tag h
  obtain ⟨kind, text, groups, labels, hs⟩ := exists_choice_of_stage hstage
  generalize s.pieces = pieces at hs
  subst hs
  refine ⟨⟨pieces, .choice kind text (groups ++ [⟨labels, tag⟩]) []⟩, ?_, ?_⟩
  · simp [written, Ending.written, OptionGroup.written, labelPassage]
  · have hstep := step_tag (pieces.flatMap Piece.questions) kind text
      (groups.flatMap OptionGroup.answers) (rules ⟨pieces, .nothing⟩) labels hunbroken
    rw [← Except.ok.inj (hstep.symm.trans h)]
    simp [outline, Ending.stage, labelStage, questions, Ending.questions, untaggedAnswers,
      OptionGroup.answers, rules]

/-- Half a rule completes the other half, takes the place of the same half, or begins a
rule. -/
theorem exists_half {s : Script} {side : Side} {text : Text} {o : Outline}
    (h : s.outline.step side.mark text = .ok o) :
    ∃ s' : Script, s'.written = s.written ++ [(side.mark, text)] ∧ s'.outline = o := by
  by_cases hready : s.outline.ready = true
  · rw [step_half_of_ready side text hready] at h
    obtain ⟨s', hwritten, houtline⟩ := exists_ending hready (.half side [] text)
    refine ⟨s', hwritten, ?_⟩
    rw [houtline, ← Except.ok.inj h, Ending.questions, List.append_nil]
    rfl
  -- not ready, so what is open is half a rule
  obtain ⟨pieces, ending⟩ := s
  cases ending with
  | nothing => exact absurd rfl hready
  | choice kind t groups labels =>
    exact absurd (ready_of_step_half h (labelStage_or labels)) hready
  | half side' earlier first =>
    -- the same half again takes its place, and the other half completes the rule
    rcases eq_or_ne side' side with rfl | hside
    · refine ⟨⟨pieces, .half side' (earlier ++ [first]) text⟩, ?_, ?_⟩
      · simp [written, Ending.written, halfPassage]
      · exact Except.ok.inj ((step_half_same side' text first _ _).symm.trans h)
    · obtain rfl := Side.eq_other_of_ne hside
      refine ⟨⟨pieces ++ [.rule side.other earlier first text], .nothing⟩, ?_, ?_⟩
      · simp [written, Ending.written, Piece.written]
      · rw [← Except.ok.inj ((step_half_other side text first _ _).symm.trans h)]
        simp [outline, Ending.stage, questions, Ending.questions, Piece.questions, rules,
          Piece.addTo]

/-- A key that fits leads from one script to a longer one. -/
theorem exists_step {s : Script} {mark : Mark} {value : Text} {o : Outline}
    (h : s.outline.step mark value = .ok o) :
    ∃ s' : Script, s'.written = s.written ++ [(mark, value)] ∧ s'.outline = o := by
  cases mark with
  | prompt kind =>
    obtain ⟨hready, rfl⟩ := ready_of_ask h
    exact exists_prompt hready kind value
  | choice kind =>
    obtain ⟨hready, rfl⟩ := ready_of_ask h
    exact exists_ending hready (.choice kind value [] [])
  | optionName => exact exists_label h
  | optionTag => exact exists_tag h
  | aliasFrom => exact @exists_half s .triggers value o h
  | aliasTo => exact @exists_half s .dependents value o h

/-- **What is accepted is a script,** and none of its tags has a blank. -/
theorem exists_of_run {w : Passage} {o : Outline} (h : run w empty = .ok o) :
    (∃ s : Script, s.written = w ∧ s.outline = o) ∧ w.TagsUnbroken := by
  -- the last key is taken off, for what it does depends on the keys before it
  induction w using List.reverseRecOn generalizing o with
  | nil =>
    cases h
    exact ⟨⟨⟨[], .nothing⟩, rfl, rfl⟩, fun key hkey => absurd hkey List.not_mem_nil⟩
  | append_singleton w key ih =>
    obtain ⟨m, hw, hkey⟩ := Except.foldlM_append_eq_ok.mp h
    obtain ⟨⟨s, rfl, rfl⟩, hunbroken⟩ := ih hw
    obtain ⟨m', hstep, hm'⟩ := Except.foldlM_cons_eq_ok.mp hkey
    cases hm'
    refine ⟨exists_step hstep, ?_⟩
    intro k hk htag
    rcases List.mem_append.mp hk with hk | hk
    · exact hunbroken k hk htag
    · obtain rfl := List.mem_singleton.mp hk
      rw [htag] at hstep
      exact (stage_of_step_tag hstep).2

end Script

/-- **Which passages are accepted.**  A run succeeds on the passages over the grammar in
which no tag has a blank. -/
theorem Outline.exists_run_iff (w : Passage) :
    (∃ o, run w empty = .ok o) ↔ w.letters ∈ outlineGrammar.matches' ∧ w.TagsUnbroken := by
  rw [mem_outlineGrammar_iff]
  constructor
  · rintro ⟨o, h⟩
    obtain ⟨⟨s, hs, -⟩, hunbroken⟩ := Script.exists_of_run h
    exact ⟨⟨s, hs⟩, hunbroken⟩
  · rintro ⟨⟨s, rfl⟩, hunbroken⟩
    obtain ⟨stage, h⟩ := run_script s hunbroken
    exact ⟨_, h⟩

end Questionnaire
