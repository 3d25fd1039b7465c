import Questionnaire.Proofs.PlainTags
import Questionnaire.Proofs.SettingFields

/-!
# What holds of every draft

A template is compiled token by token, and what the tokens so far have made is in order
after each of them.  The stage tells what the last question is: in a choice it is a
choice, behind a label it is a choice whose last option waits for its tag, and elsewhere
nothing is left open.  So the options of a key always have a question to go to, and every
choice but an open one has options.

## Main definitions

* `Question.Answered` — a choice has an option.
* `Stage.Fits` — the questions are as the stage says.
* `Outline.Sound`, `Draft.Sound` — what every step keeps.

## Main results

* `Outline.half_cases`, `Outline.Sound.exists_choice` — what a step can do, and on what.
* `Outline.Sound.step` — a key that fits keeps an outline sound.
* `Draft.Sound.feed`, `Draft.Sound.feedAll` — **a token that fits keeps a draft sound.**
* `Draft.sound_after_each_token` — **what holds after each token.**
-/

namespace Questionnaire

open Text

/-- A choice has an option. -/
def Question.Answered : Question → Prop
  | .prompt _ _ => True
  | .choice _ _ options => options ≠ []

/-- The questions are as the stage says. -/
def Stage.Fits (questions : List Question) : Stage → Prop
  | .settled => ∀ q ∈ questions, q.Answered
  | .inChoice => ∃ before kind text options,
    questions = before ++ [.choice kind text options] ∧ ∀ q ∈ before, q.Answered
  | .inLabel => ∃ before kind text options name,
    questions = before ++ [.choice kind text (options ++ [⟨name, []⟩])] ∧ ∀ q ∈ before, q.Answered
  | .triggersGiven _ => ∀ q ∈ questions, q.Answered
  | .dependentsGiven _ => ∀ q ∈ questions, q.Answered

/-! ### Outlines -/

namespace Outline

variable {o o' : Outline}

/-- What every key keeps. -/
structure Sound (o : Outline) : Prop where
  /-- The questions are as the stage says. -/
  fits : o.stage.Fits o.questions
  /-- No tag of an option has a blank. -/
  solid : ∀ q ∈ o.questions, ∀ a ∈ q.options, Solid a.tag
  /-- The rules are made of words. -/
  rules : o.rules.Plain

theorem sound_empty : Sound empty :=
  ⟨fun _ h => absurd h List.not_mem_nil, fun _ h => absurd h List.not_mem_nil,
    RuleTable.plain_empty⟩

/-- Where something new may begin, every choice has an option. -/
theorem Sound.answered_of_ready (h : o.Sound) (hready : o.ready = true) :
    ∀ q ∈ o.questions, q.Answered := by
  obtain ⟨stage, questions, rules⟩ := o
  have hfits : stage.Fits questions := h.fits
  cases stage with
  | settled => exact hfits
  | inLabel => cases hready
  | triggersGiven _ => exact hfits
  | dependentsGiven _ => exact hfits
  | inChoice =>
    -- an open choice is ready only with an option
    obtain ⟨before, kind, text, options, rfl, hbefore⟩ := hfits
    rw [List.forall_mem_append, List.forall_mem_singleton]
    refine ⟨hbefore, ?_⟩
    rintro rfl
    simp [ready, lastOptions?] at hready

/-- While a choice is open, the last question is a choice, and labels may wait for a tag. -/
theorem Sound.exists_choice (h : o.Sound) (hstage : o.stage = .inChoice ∨ o.stage = .inLabel) :
    ∃ before kind text options labels,
      o = ⟨labelStage labels, before ++ [.choice kind text (options ++ untaggedAnswers labels)],
        o.rules⟩ ∧ ∀ q ∈ before, q.Answered := by
  obtain ⟨stage, questions, rules⟩ := o
  have hfits : stage.Fits questions := h.fits
  rcases hstage with rfl | rfl
  · obtain ⟨before, kind, text, options, rfl, hbefore⟩ := hfits
    refine ⟨before, kind, text, options, [], ?_, hbefore⟩
    simp [labelStage, untaggedAnswers]
  · obtain ⟨before, kind, text, options, name, rfl, hbefore⟩ := hfits
    exact ⟨before, kind, text, options, [name], rfl, hbefore⟩

/-- Half a rule begins a rule, takes the place of the same half, or completes the other. -/
theorem half_cases {side : Side} {text : Text} (h : o.step side.mark text = .ok o') :
    (o.ready = true ∧ o' = ⟨side.given text, o.questions, o.rules⟩) ∨
    (∃ earlier, o.stage = side.given earlier ∧ o' = ⟨side.given text, o.questions, o.rules⟩) ∨
    ∃ earlier, o.stage = side.other.given earlier ∧
      o' = ⟨.settled, o.questions, side.complete text earlier o.rules⟩ := by
  by_cases hready : o.ready = true
  · rw [step_half_of_ready side text hready] at h
    exact Or.inl ⟨hready, (Except.ok.inj h).symm⟩
  · -- not ready, so what is open is half a rule, of the same side or of the other
    obtain ⟨stage, questions, rules⟩ := o
    have hside : ∀ side' earlier, stage = Side.given side' earlier →
        (∃ earlier, stage = side.given earlier ∧ o' = ⟨side.given text, questions, rules⟩) ∨
        ∃ earlier, stage = side.other.given earlier ∧
          o' = ⟨.settled, questions, side.complete text earlier rules⟩ := by
      rintro side' earlier rfl
      rcases eq_or_ne side' side with rfl | hne
      · rw [step_half_same] at h
        exact Or.inl ⟨earlier, rfl, (Except.ok.inj h).symm⟩
      · obtain rfl := Side.eq_other_of_ne hne
        rw [step_half_other] at h
        exact Or.inr ⟨earlier, rfl, (Except.ok.inj h).symm⟩
    cases stage with
    | settled => exact absurd rfl hready
    | inChoice => exact absurd (ready_of_step_half h (Or.inl rfl)) hready
    | inLabel => exact absurd (ready_of_step_half h (Or.inr rfl)) hready
    | triggersGiven earlier => exact Or.inr (hside .triggers earlier rfl)
    | dependentsGiven earlier => exact Or.inr (hside .dependents earlier rfl)

/-- While half a rule is given, nothing else is open. -/
theorem fits_given_iff (side : Side) (text : Text) (questions : List Question) :
    (side.given text).Fits questions ↔ ∀ q ∈ questions, q.Answered := by
  cases side <;> exact Iff.rfl

theorem plain_complete {t : RuleTable} (h : t.Plain) (side : Side) (text earlier : Text) :
    (side.complete text earlier t).Plain := by
  cases side
  · exact h.addRule text earlier
  · exact h.addRule earlier text

theorem Sound.half (h : o.Sound) (side : Side) {text : Text}
    (hstep : o.step side.mark text = .ok o') : o'.Sound := by
  rcases half_cases hstep with ⟨hready, rfl⟩ | ⟨earlier, hstage, rfl⟩ | ⟨earlier, hstage, rfl⟩
  · exact ⟨(fits_given_iff _ _ _).mpr (h.answered_of_ready hready), h.solid, h.rules⟩
  · have hfits := h.fits
    rw [hstage, fits_given_iff] at hfits
    exact ⟨(fits_given_iff _ _ _).mpr hfits, h.solid, h.rules⟩
  · have hfits := h.fits
    rw [hstage, fits_given_iff] at hfits
    exact ⟨hfits, h.solid, plain_complete h.rules side text earlier⟩

theorem Sound.ask (h : o.Sound) {question : Question} {stage : Stage}
    (hfits : stage.Fits (o.questions ++ [question]))
    (hsolid : ∀ a ∈ question.options, Solid a.tag) :
    Sound ⟨stage, o.questions ++ [question], o.rules⟩ := by
  refine ⟨hfits, ?_, h.rules⟩
  rw [List.forall_mem_append, List.forall_mem_singleton]
  exact ⟨h.solid, hsolid⟩

/-- Further options in the last choice keep an outline sound, if the stage fits them. -/
theorem Sound.addOptions {stage stage' : Stage} {before : List Question} {kind : Choice}
    {text : Text} {options old new : List Answer} {rules : RuleTable}
    (h : Sound ⟨stage, before ++ [.choice kind text (options ++ old)], rules⟩)
    (hfits : stage'.Fits (before ++ [.choice kind text (options ++ new)]))
    (hsolid : ∀ a ∈ new, Solid a.tag) :
    Sound ⟨stage', before ++ [.choice kind text (options ++ new)], rules⟩ := by
  have hold := h.solid
  rw [List.forall_mem_append, List.forall_mem_singleton] at hold
  refine ⟨hfits, ?_, h.rules⟩
  rw [List.forall_mem_append, List.forall_mem_singleton]
  exact ⟨hold.1, List.forall_mem_append.mpr ⟨(List.forall_mem_append.mp hold.2).1, hsolid⟩⟩

theorem untaggedAnswers_concat (labels : List Text) (name : Text) :
    untaggedAnswers (labels ++ [name]) = untaggedAnswers labels ++ [⟨name, []⟩] :=
  List.map_append

theorem solid_of_mem_untaggedAnswers (labels : List Text) :
    ∀ a ∈ untaggedAnswers labels, Solid a.tag := by
  intro a ha
  obtain ⟨label, -, rfl⟩ := List.mem_map.mp ha
  exact solid_nil

theorem solid_of_mem_taggedAnswers (labels : List Text) {tag : Text} (htag : Solid tag) :
    ∀ a ∈ taggedAnswers labels tag, Solid a.tag := by
  rcases List.eq_nil_or_concat labels with rfl | ⟨init, label, rfl⟩
  · exact List.forall_mem_singleton.mpr htag
  · rw [List.concat_eq_append, taggedAnswers_concat, List.forall_mem_append,
      List.forall_mem_singleton]
    exact ⟨solid_of_mem_untaggedAnswers init, htag⟩

theorem Sound.label (h : o.Sound) {name : Text} (hstep : o.step .optionName name = .ok o') :
    o'.Sound := by
  obtain ⟨before, kind, text, options, labels, ho, hbefore⟩ :=
    h.exists_choice (stage_of_step_label hstep)
  rw [ho] at h hstep
  rw [← Except.ok.inj ((step_label before kind text options o.rules labels name).symm.trans hstep)]
  refine h.addOptions ?_ (solid_of_mem_untaggedAnswers _)
  have hstage : labelStage (labels ++ [name]) = .inLabel := by simp [labelStage]
  rw [hstage, untaggedAnswers_concat, ← List.append_assoc]
  exact ⟨before, kind, text, _, name, rfl, hbefore⟩

theorem Sound.tag (h : o.Sound) {tag : Text} (hstep : o.step .optionTag tag = .ok o') :
    o'.Sound := by
  obtain ⟨hstage, htag⟩ := stage_of_step_tag hstep
  obtain ⟨before, kind, text, options, labels, ho, hbefore⟩ := h.exists_choice hstage
  rw [ho] at h hstep
  rw [← Except.ok.inj ((step_tag before kind text options o.rules labels htag).symm.trans hstep)]
  refine h.addOptions ⟨before, kind, text, _, rfl, hbefore⟩ ?_
  exact solid_of_mem_taggedAnswers labels (by simpa [Solid] using htag)

/-- **A key that fits keeps an outline sound.** -/
theorem Sound.step (h : o.Sound) {mark : Mark} {value : Text}
    (hstep : o.step mark value = .ok o') : o'.Sound := by
  cases mark with
  | prompt kind =>
    obtain ⟨hready, rfl⟩ := ready_of_ask hstep
    refine h.ask ?_ fun a ha => absurd ha List.not_mem_nil
    exact List.forall_mem_append.mpr
      ⟨h.answered_of_ready hready, List.forall_mem_singleton.mpr trivial⟩
  | choice kind =>
    obtain ⟨hready, rfl⟩ := ready_of_ask hstep
    refine h.ask ?_ fun a ha => absurd ha List.not_mem_nil
    exact ⟨o.questions, kind, value, [], rfl, h.answered_of_ready hready⟩
  | optionName => exact h.label hstep
  | optionTag => exact h.tag hstep
  | aliasFrom => exact h.half .triggers hstep
  | aliasTo => exact h.half .dependents hstep

/-! ### What the stage tells -/

theorem Sound.answered (h : o.Sound) (hchoice : o.stage ≠ .inChoice) (hlabel : o.stage ≠ .inLabel) :
    ∀ q ∈ o.questions, q.Answered := by
  obtain ⟨stage, questions, rules⟩ := o
  have hfits : stage.Fits questions := h.fits
  cases stage with
  | settled => exact hfits
  | inChoice => exact absurd rfl hchoice
  | inLabel => exact absurd rfl hlabel
  | triggersGiven _ => exact hfits
  | dependentsGiven _ => exact hfits

theorem Sound.answered_dropLast (h : o.Sound) : ∀ q ∈ o.questions.dropLast, q.Answered := by
  by_cases hstage : o.stage = .inChoice ∨ o.stage = .inLabel
  · obtain ⟨before, kind, text, options, labels, ho, hbefore⟩ := h.exists_choice hstage
    rw [ho, List.dropLast_concat]
    exact hbefore
  · rw [not_or] at hstage
    exact fun q hq => h.answered hstage.1 hstage.2 q (List.dropLast_subset _ hq)

/-- An open choice takes every label. -/
theorem Sound.exists_label (h : o.Sound) (hstage : o.stage = .inChoice ∨ o.stage = .inLabel)
    (name : Text) : ∃ o', o.step .optionName name = .ok o' := by
  obtain ⟨before, kind, text, options, labels, ho, -⟩ := h.exists_choice hstage
  rw [ho]
  exact ⟨_, step_label before kind text options o.rules labels name⟩

/-- An open choice refuses a tag only for a blank in it. -/
theorem Sound.eq_blankInTag (h : o.Sound) (hstage : o.stage = .inChoice ∨ o.stage = .inLabel)
    {tag : Text} {fault : OutlineFault} (hstep : o.step .optionTag tag = .error fault) :
    fault = .blankInTag tag := by
  cases htag : tag.any isBlank with
  | true =>
    rw [Outline.step, addTag, if_pos hstage, if_pos htag] at hstep
    exact (Except.error.inj hstep).symm
  | false =>
    obtain ⟨before, kind, text, options, labels, ho, -⟩ := h.exists_choice hstage
    rw [ho, step_tag before kind text options o.rules labels htag] at hstep
    cases hstep

/-- Behind a label the last option has no tag, and the next tag goes to it. -/
theorem Sound.waiting (h : o.Sound) (hstage : o.stage = .inLabel) :
    ∃ kind text options name,
      o.questions.getLast? = some (.choice kind text (options ++ [⟨name, []⟩])) ∧
      ∀ tag o', o.step .optionTag tag = .ok o' →
        o'.questions.getLast? = some (.choice kind text (options ++ [⟨name, tag⟩])) := by
  obtain ⟨stage, questions, rules⟩ := o
  obtain rfl : stage = .inLabel := hstage
  obtain ⟨before, kind, text, options, name, hquestions, -⟩ := h.fits
  obtain rfl : questions = before ++ [.choice kind text (options ++ [⟨name, []⟩])] := hquestions
  refine ⟨kind, text, options, name, List.getLast?_concat, fun tag o' hstep => ?_⟩
  have hrun := step_tag before kind text options rules [name] (stage_of_step_tag hstep).2
  rw [← Except.ok.inj (hrun.symm.trans hstep)]
  exact List.getLast?_concat

end Outline

/-! ### Drafts -/

/-- A width that is set is positive. -/
theorem Settings.squareWidth_pos_of_set {s s' : Settings} {setting : Setting} {value : Text}
    (hs : 0 < s.squareWidth) (h : s.set setting value = .ok s') : 0 < s'.squareWidth := by
  obtain ⟨a, hread, rfl⟩ := set_eq_ok_iff.mp h
  by_cases hsetting : setting = .backgroundSquareWidth
  · subst hsetting
    exact Nat.pos_of_ne_zero (readWidth_eq_ok_iff.mp hread).2
  · have hkept : (s.put setting (setting.absorb (s.get setting) a)).squareWidth = s.squareWidth :=
      get_put_of_ne (Ne.symm hsetting) s _
    rw [hkept]
    exact hs

namespace Draft

variable {d d' : Draft}

/-- What every token keeps. -/
structure Sound (d : Draft) : Prop where
  /-- The outline is sound. -/
  outline : d.outline.Sound
  /-- The default tags are made of words. -/
  tags : ∀ list, (d.tags.of list).Plain
  /-- A square has a width. -/
  width : 0 < d.settings.squareWidth

theorem sound_start {settings : Settings} (h : 0 < settings.squareWidth) :
    (start settings).Sound :=
  ⟨Outline.sound_empty, fun list => by cases list <;> exact Registry.plain_empty, h⟩

/-- **A token that fits keeps a draft sound.** -/
theorem Sound.feed (h : d.Sound) {token : Token} (hfeed : d.feed token = .ok d') : d'.Sound := by
  obtain ⟨position, key, value⟩ := token
  cases key with
  | outline mark =>
    obtain ⟨o, hstep, rfl⟩ := feed_outline_eq_ok_iff.mp hfeed
    exact ⟨h.outline.step hstep, h.tags, h.width⟩
  | tags list =>
    obtain rfl := feed_tags_eq_ok_iff.mp hfeed
    refine ⟨h.outline, fun other => ?_, h.width⟩
    by_cases hother : other = list
    · rw [hother, DefaultTags.of_add_self]
      exact (h.tags list).touchWords value
    · rw [DefaultTags.of_add_of_ne hother]
      exact h.tags other
  | setting s =>
    obtain ⟨settings, hset, rfl⟩ := feed_setting_eq_ok_iff.mp hfeed
    exact ⟨h.outline, h.tags, Settings.squareWidth_pos_of_set h.width hset⟩

theorem Sound.feedAll (h : d.Sound) {tokens : List Token} (hfeed : feedAll tokens d = .ok d') :
    d'.Sound := by
  induction tokens generalizing d with
  | nil =>
    cases hfeed
    exact h
  | cons token tokens ih =>
    obtain ⟨x, hx, hrest⟩ := Except.foldlM_cons_eq_ok.mp hfeed
    exact ih (h.feed hx) hrest

/-- A configuration that is compiled is that of a sound draft, to which the tokens lead. -/
theorem exists_draft_of_compile {source : Text} {c : Config} (h : compile source = .ok c) :
    ∃ tokens x, tokenize source = .ok tokens ∧ feedAll tokens (.start .initial) = .ok x ∧
      x.Sound ∧ x.config = c := by
  obtain ⟨tokens, htokens, -⟩ := Except.bind_eq_ok.mp h
  obtain ⟨x, hx, hconfig⟩ := (compileWith_eq_ok_iff htokens).mp h
  exact ⟨tokens, x, htokens, hx, (sound_start (by decide)).feedAll hx, hconfig⟩

/-! ### The theorem -/

/-- **What holds after each token** of a template that fits.  While a choice is open, the last
question is a choice; it takes every label, and refuses a tag for nothing but a blank in it.
Behind a label its last option has no tag yet, and the next tag goes to that option.
Every other choice has an option, and no tag of an option has a blank.  All default tags and
all dependents of rules have strength one and names made of words; so have triggers, each of
which is bound to a registry with tags.  A square has a width. -/
theorem sound_after_each_token {settings : Settings} (hwidth : 0 < settings.squareWidth)
    {before after : List Token} {y : Draft}
    (h : feedAll (before ++ after) (.start settings) = .ok y) :
    ∃ x, feedAll before (.start settings) = .ok x ∧ feedAll after x = .ok y ∧
      (x.outline.stage = .inChoice ∨ x.outline.stage = .inLabel →
        (∃ kind text options,
          x.outline.questions.getLast? = some (.choice kind text options)) ∧
        (∀ name, ∃ o, x.outline.step .optionName name = .ok o) ∧
        ∀ tag fault, x.outline.step .optionTag tag = .error fault → fault = .blankInTag tag) ∧
      (x.outline.stage = .inLabel → ∃ kind text options name,
        x.outline.questions.getLast? = some (.choice kind text (options ++ [⟨name, []⟩])) ∧
        ∀ tag o, x.outline.step .optionTag tag = .ok o →
          o.questions.getLast? = some (.choice kind text (options ++ [⟨name, tag⟩]))) ∧
      (x.outline.stage ≠ .inChoice → x.outline.stage ≠ .inLabel →
        ∀ q ∈ x.outline.questions, q.Answered) ∧
      (∀ q ∈ x.outline.questions.dropLast, q.Answered) ∧
      (∀ q ∈ x.outline.questions, ∀ a ∈ q.options, ∀ c ∈ a.tag, isBlank c = false) ∧
      (∀ list, ∀ tag ∈ (x.tags.of list).listing, tag.strength = 1 ∧ TagName tag.name) ∧
      (∀ r ∈ x.outline.rules.rules, ∀ tag ∈ r.listing, tag.strength = 1 ∧ TagName tag.name) ∧
      (∀ entry ∈ x.outline.rules.triggers, TagName entry.1 ∧
        ∃ r, x.outline.rules.rules[entry.2]? = some r ∧ r.listing ≠ []) ∧
      1 ≤ x.settings.squareWidth := by
  obtain ⟨x, hx, hrest⟩ := Except.foldlM_append_eq_ok.mp h
  have hsound : x.Sound := (sound_start hwidth).feedAll hx
  have houtline := hsound.outline
  refine ⟨x, hx, hrest, fun hstage => ⟨?_, fun name => ?_, fun tag fault => ?_⟩, fun hstage => ?_,
    houtline.answered, houtline.answered_dropLast, houtline.solid, fun list tag htag => ?_,
    fun r hr tag htag => ?_, fun entry hentry => ?_, hsound.width⟩
  · obtain ⟨before, kind, text, options, labels, ho, -⟩ := houtline.exists_choice hstage
    exact ⟨kind, text, _, by rw [ho, List.getLast?_concat]⟩
  · exact houtline.exists_label hstage name
  · exact houtline.eq_blankInTag hstage
  · exact houtline.waiting hstage
  · have hplain := (hsound.tags list).plain tag htag
    exact ⟨hplain.strength_eq, hplain.name⟩
  · have hplain := (houtline.rules.rules r hr).1.plain tag htag
    exact ⟨hplain.strength_eq, hplain.name⟩
  · obtain ⟨hname, hnumber⟩ := houtline.rules.triggers entry hentry
    exact ⟨hname, _, List.getElem?_eq_getElem hnumber,
      (houtline.rules.rules _ (List.getElem_mem hnumber)).2⟩

/-- A label waits for its tag, which follows, and a template may end in an open choice. -/
theorem sound_after_each_token_waiting_label :
    let before : List Token :=
      [⟨⟨1, 1⟩, .outline (.choice .radio), ['q']⟩, ⟨⟨2, 1⟩, .outline .optionName, ['R', 'd']⟩]
    let after : List Token :=
      [⟨⟨3, 1⟩, .outline .optionTag, ['r']⟩, ⟨⟨4, 1⟩, .outline .aliasTo, ['X', ' ', 'y']⟩,
        ⟨⟨5, 1⟩, .tags .tagless, "T\tu t".toList⟩, ⟨⟨6, 1⟩, .outline .aliasFrom, ['R']⟩,
        ⟨⟨7, 1⟩, .setting .backgroundSquareWidth, ['8']⟩,
        ⟨⟨8, 1⟩, .outline (.choice .check), ['p']⟩]
    0 < Settings.initial.squareWidth ∧ ∃ x y, feedAll before (.start .initial) = .ok x ∧
      feedAll after x = .ok y ∧ x.outline.stage = .inLabel ∧
      (∃ kind text options name,
        x.outline.questions.getLast? = some (.choice kind text (options ++ [⟨name, []⟩]))) ∧
      1 ≤ x.settings.squareWidth := by
  intro before after
  have hwidth : 0 < Settings.initial.squareWidth := by decide
  have hok : (feedAll (before ++ after) (.start .initial)).isOk = true := by decide +kernel
  cases hy : feedAll (before ++ after) (.start .initial) with
  | error e =>
    rw [hy] at hok
    cases hok
  | ok y =>
    obtain ⟨x, hx, hrest, -, hwaiting, -, -, -, -, -, -, hpositive⟩ :=
      sound_after_each_token hwidth hy
    have hstage : x.outline.stage = .inLabel := by
      obtain rfl := Except.ok.inj hx
      rfl
    obtain ⟨kind, text, options, name, hlast, -⟩ := hwaiting hstage
    exact ⟨hwidth, x, y, hx, hrest, hstage, ⟨kind, text, options, name, hlast⟩, hpositive⟩

end Draft

end Questionnaire
