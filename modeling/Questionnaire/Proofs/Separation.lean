import Questionnaire.Proofs.DefaultTags

/-!
# Settings and outline do not interfere

The tokens of a template are read by runs that do not see each other: one over the keys
of the outline, and one for every other key.  So it does not matter how the tokens of
different keys are interleaved, nor where they stand.  What the settings start from is
seen by no run but those of the settings, and by none of them when it decides whether a
value fits, so it has no say in what is refused.

## Main definitions

* `Token.valuesOf` — the values of one key.
* `Token.SameByKey` — tokens with the same outline, and the same values for every other key.

## Main results

* `Draft.feedAll_congr` — **interleaving does not show.**
* `Draft.outline_feedAll_congr` — the outline does not see what the settings start from.
* `compileWith_eq_error_iff` — neither does the error of a source.
* `settings_and_outline_apart` — **what the settings and the default tags become, and what
  the settings they start from have to do with it.**
-/

namespace Questionnaire

open Text

namespace Token

/-- The values of the tokens of a key, in order. -/
def valuesOf (key : Key) (tokens : List Token) : List Text :=
  valuesUnder key (tokens.map fun t => (t.key, t.value))

/-- The keys of the outline come in the same order with the same values, and the values of
every other key do. -/
structure SameByKey (ts us : List Token) : Prop where
  /-- The outlines are the same. -/
  outline : ts.filterMap mark? = us.filterMap mark?
  /-- The values of every setting are the same. -/
  setting : ∀ s, valuesOf (.setting s) ts = valuesOf (.setting s) us
  /-- The lists of default tags are the same. -/
  tags : ∀ list, valuesOf (.tags list) ts = valuesOf (.tags list) us

/-- The values of a key among those of all keys of its kind. -/
theorem valuesUnder_filterMap {κ : Type} [DecidableEq κ] {pick : Token → Option (κ × Text)}
    {wrap : κ → Key}
    (h : ∀ t key value, pick t = some (key, value) ↔ t.key = wrap key ∧ t.value = value) (key : κ)
    (tokens : List Token) :
    valuesUnder key (tokens.filterMap pick) = valuesOf (wrap key) tokens := by
  unfold valuesOf valuesUnder
  rw [List.filterMap_filterMap, List.filterMap_map]
  refine List.filterMap_congr fun t _ => ?_
  rw [Function.comp_apply]
  by_cases hkey : t.key = wrap key
  · rw [(h t key t.value).mpr ⟨hkey, rfl⟩, if_pos hkey]
    exact if_pos rfl
  · rw [if_neg hkey]
    cases hpick : pick t with
    | none => rfl
    | some entry =>
      obtain ⟨other, value⟩ := entry
      have hother : t.key = wrap other := ((h t other value).mp hpick).1
      have hne : other ≠ key := by
        rintro rfl
        exact hkey hother
      exact if_neg hne

theorem tagList?_eq_some_iff {t : Token} {list : TagList} {value : Text} :
    t.tagList? = some (list, value) ↔ t.key = .tags list ∧ t.value = value := by
  obtain ⟨position, key, v⟩ := t
  cases key <;> simp [tagList?]

theorem valuesUnder_setting (s : Setting) (tokens : List Token) :
    valuesUnder s (tokens.filterMap setting?) = valuesOf (.setting s) tokens :=
  valuesUnder_filterMap (fun _ _ _ => setting?_eq_some_iff) s tokens

theorem valuesUnder_tags (list : TagList) (tokens : List Token) :
    valuesUnder list (tokens.filterMap tagList?) = valuesOf (.tags list) tokens :=
  valuesUnder_filterMap (fun _ _ _ => tagList?_eq_some_iff) list tokens

end Token

namespace Draft

/-! ### Interleaving -/

/-- The run of a template in its parts: the outline, every setting, and every registry of
default tags. -/
theorem feedAll_eq_ok_iff_apart {tokens : List Token} {d x : Draft} :
    feedAll tokens d = .ok x ↔
      Outline.run (tokens.filterMap Token.mark?) d.outline = .ok x.outline ∧
      (∀ s : Setting, s.gather (Token.valuesOf (.setting s) tokens) (d.settings.get s) =
        .ok (x.settings.get s)) ∧
      ∀ list, (Token.valuesOf (.tags list) tokens).foldl
        (fun r names => r.touchWords (.raise DefaultTags.strength) names) (d.tags.of list) =
          x.tags.of list := by
  have htags : DefaultTags.addAll (tokens.filterMap Token.tagList?) d.tags = x.tags ↔
      ∀ list, (Token.valuesOf (.tags list) tokens).foldl
        (fun r names => r.touchWords (.raise DefaultTags.strength) names) (d.tags.of list) =
          x.tags.of list := by
    constructor
    · rintro h list
      rw [← h, DefaultTags.of_addAll, Token.valuesUnder_tags]
    · intro h
      refine DefaultTags.ext_of fun list => ?_
      rw [← h, DefaultTags.of_addAll, Token.valuesUnder_tags]
  rw [feedAll_eq_ok_iff, Settings.setAll_eq_ok_iff, htags]
  simp only [Token.valuesUnder_setting]

/-- **Interleaving does not show:** tokens that are the same by key lead to the same
drafts. -/
theorem feedAll_congr {ts us : List Token} (h : Token.SameByKey ts us) {d x : Draft} :
    feedAll ts d = .ok x ↔ feedAll us d = .ok x := by
  rw [feedAll_eq_ok_iff_apart, feedAll_eq_ok_iff_apart, h.outline]
  simp only [h.setting, h.tags]

/-! ### Starting from other settings -/

/-- One step shows nothing of the settings in the outline, nor in an error. -/
theorem outline_feed_congr (t : Token) {d d' : Draft} (h : d.outline = d'.outline) :
    (d.feed t).map outline = (d'.feed t).map outline := by
  obtain ⟨position, key, value⟩ := t
  cases key with
  | outline mark =>
    simp only [feed, put, h]
    cases d'.outline.step mark value <;> rfl
  | tags list => exact congrArg Except.ok h
  | setting s =>
    simp only [feed, put, Settings.set_eq]
    cases s.read value with
    | error fault => rfl
    | ok a => exact congrArg Except.ok h

/-- The outline and the first error do not depend on the settings. -/
theorem outline_feedAll_congr (tokens : List Token) {d d' : Draft} (h : d.outline = d'.outline) :
    (feedAll tokens d).map outline = (feedAll tokens d').map outline :=
  Except.map_foldlM_congr (fun t _ _ _ hdraft => outline_feed_congr t hdraft) h

theorem feedAll_eq_error_iff (tokens : List Token) (settings settings' : Settings)
    {e : TemplateError} :
    feedAll tokens (.start settings) = .error e ↔ feedAll tokens (.start settings') = .error e := by
  have h : (start settings).outline = (start settings').outline := rfl
  exact Except.eq_error_iff_of_map_eq (outline_feedAll_congr tokens h)

theorem exists_feedAll_iff (tokens : List Token) (settings settings' : Settings) :
    (∃ x, feedAll tokens (.start settings) = .ok x) ↔
      ∃ x, feedAll tokens (.start settings') = .ok x := by
  have h : ∀ s s' : Settings, (∃ x, feedAll tokens (.start s) = .ok x) →
      ∃ x, feedAll tokens (.start s') = .ok x := by
    rintro s s' ⟨x, hx⟩
    cases hother : feedAll tokens (.start s') with
    | ok x' => exact ⟨x', rfl⟩
    | error e =>
      rw [feedAll_eq_error_iff tokens s' s, hx] at hother
      cases hother
  exact ⟨h _ _, h _ _⟩

/-! ### What a run leaves -/

variable {tokens : List Token} {settings : Settings} {x : Draft}

theorem holdsLast_of_feedAll (h : feedAll tokens (.start settings) = .ok x) {s : Setting}
    (hs : s ≠ .keybind) :
    s.HoldsLast (Token.valuesOf (.setting s) tokens) (settings.get s) (x.settings.get s) :=
  Setting.holdsLast_of_gather hs ((feedAll_eq_ok_iff_apart.mp h).2.1 s)

theorem keybinds_of_feedAll (h : feedAll tokens (.start settings) = .ok x) :
    x.settings.keybinds = settings.keybinds ++ Token.valuesOf (.setting .keybind) tokens := by
  have hgather := (feedAll_eq_ok_iff_apart.mp h).2.1 .keybind
  exact Except.ok.inj (hgather.symm.trans (Setting.gather_keybind _ settings.keybinds))

theorem tags_of_feedAll (h : feedAll tokens (.start settings) = .ok x) {list : TagList}
    {values : List Text} (hvalues : values.Perm (Token.valuesOf (.tags list) tokens)) {sep : Text}
    (hsep : sep ≠ []) (hblank : ∀ c ∈ sep, isBlank c = true) :
    x.tags.of list = .ofWords (sep.intercalate values) DefaultTags.strength := by
  rw [← (feedAll_eq_ok_iff.mp h).2.2]
  rw [← Token.valuesUnder_tags] at hvalues
  exact DefaultTags.of_addAll_empty hvalues hsep hblank

end Draft

/-- A source is refused for the same reason whatever the settings start from. -/
theorem compileWith_eq_error_iff (source : Text) (settings settings' : Settings)
    {e : TemplateError} :
    compileWith settings source = .error e ↔ compileWith settings' source = .error e := by
  rw [compileWith_eq_error, compileWith_eq_error]
  refine or_congr_right (exists_congr fun tokens => and_congr_right fun _ => ?_)
  exact Draft.feedAll_eq_error_iff tokens settings settings'

/-! ### The theorem -/

/-- **Settings and outline do not interfere.**  Tokens that are the same by key are accepted
together and lead to the same draft, whatever their order and positions.  If they are
accepted, every setting but the keybinds holds what its last value stands for, the
keybinds are added to the given ones, and the default tags of a key are those of all its
values, joined by blanks in any order.  Other given settings lead to the same errors, and
to a configuration that differs only in the settings that no token names and in the
keybinds in front. -/
theorem settings_and_outline_apart (d : Settings) (ts : List Token) :
    (∀ us, Token.SameByKey ts us →
      ∀ x, Draft.feedAll ts (.start d) = .ok x ↔ Draft.feedAll us (.start d) = .ok x) ∧
    (∀ x, Draft.feedAll ts (.start d) = .ok x →
      (∀ s : Setting, s ≠ .keybind →
        s.HoldsLast (Token.valuesOf (.setting s) ts) (d.get s) (x.config.settings.get s)) ∧
      x.config.settings.keybinds = d.keybinds ++ Token.valuesOf (.setting .keybind) ts ∧
      ∀ (list : TagList) (values : List Text) (sep : Text),
        values.Perm (Token.valuesOf (.tags list) ts) → sep ≠ [] → (∀ c ∈ sep, isBlank c = true) →
        x.config.tags.of list = .ofWords (sep.intercalate values) 1) ∧
    ∀ d' : Settings,
      ((∃ x, Draft.feedAll ts (.start d) = .ok x) ↔ ∃ x, Draft.feedAll ts (.start d') = .ok x) ∧
      (∀ e, Draft.feedAll ts (.start d) = .error e ↔ Draft.feedAll ts (.start d') = .error e) ∧
      ∀ x x', Draft.feedAll ts (.start d) = .ok x → Draft.feedAll ts (.start d') = .ok x' →
        x'.config.questions = x.config.questions ∧ x'.config.rules = x.config.rules ∧
        x'.config.tags = x.config.tags ∧
        (∀ s : Setting, s ≠ .keybind → Token.valuesOf (.setting s) ts ≠ [] →
          x'.config.settings.get s = x.config.settings.get s) ∧
        ∃ given, x.config.settings.keybinds = d.keybinds ++ given ∧
          x'.config.settings.keybinds = d'.keybinds ++ given := by
  refine ⟨fun us hsame x => Draft.feedAll_congr hsame, ?_, ?_⟩
  · intro x hx
    refine ⟨fun s hs => Draft.holdsLast_of_feedAll hx hs, Draft.keybinds_of_feedAll hx, ?_⟩
    intro list values sep hvalues hsep hblank
    exact Draft.tags_of_feedAll hx hvalues hsep hblank
  · intro d'
    refine ⟨Draft.exists_feedAll_iff ts d d', fun e => Draft.feedAll_eq_error_iff ts d d', ?_⟩
    intro x x' hx hx'
    obtain ⟨houtline, -, htags⟩ := Draft.feedAll_eq_ok_iff.mp hx
    obtain ⟨houtline', -, htags'⟩ := Draft.feedAll_eq_ok_iff.mp hx'
    have hsame : x'.outline = x.outline := Except.ok.inj (houtline'.symm.trans houtline)
    refine ⟨congrArg Outline.questions hsame, congrArg Outline.rules hsame,
      htags'.symm.trans htags, ?_, _, Draft.keybinds_of_feedAll hx, Draft.keybinds_of_feedAll hx'⟩
    intro s hs hgiven
    -- a value was given, so the last one tells what both hold
    have hlast := Draft.holdsLast_of_feedAll hx hs
    have hlast' := Draft.holdsLast_of_feedAll hx' hs
    obtain ⟨value, hvalue⟩ := Option.ne_none_iff_exists'.mp (mt List.getLast?_eq_none_iff.mp hgiven)
    rw [Setting.HoldsLast, hvalue] at hlast hlast'
    exact Except.ok.inj (hlast'.symm.trans hlast)

/-- Settings and default tags around a question and behind it: all keybinds are kept, and the
later width counts. -/
theorem settings_and_outline_apart_keybinds :
    let ask : Key := .outline (.prompt .entry)
    let width : Key := .setting .backgroundSquareWidth
    let ts : List Token :=
      [⟨⟨1, 1⟩, .setting .keybind, ['a']⟩, ⟨⟨2, 1⟩, width, ['8']⟩, ⟨⟨3, 1⟩, ask, ['q']⟩,
        ⟨⟨4, 1⟩, .tags .tagless, ['X']⟩, ⟨⟨5, 1⟩, .setting .keybind, ['b']⟩,
        ⟨⟨6, 1⟩, width, ['9']⟩, ⟨⟨7, 1⟩, .tags .tagless, ['y']⟩]
    let us : List Token :=
      [⟨⟨1, 1⟩, ask, ['q']⟩, ⟨⟨1, 9⟩, width, ['8']⟩, ⟨⟨2, 5⟩, width, ['9']⟩,
        ⟨⟨4, 1⟩, .tags .tagless, ['X']⟩, ⟨⟨5, 1⟩, .tags .tagless, ['y']⟩,
        ⟨⟨6, 1⟩, .setting .keybind, ['a']⟩, ⟨⟨7, 1⟩, .setting .keybind, ['b']⟩]
    let given : Settings := { Settings.initial with keybinds := [['z']] }
    Token.SameByKey ts us ∧ ∃ x, Draft.feedAll us (.start .initial) = .ok x ∧
      x.config.settings.keybinds = [['a'], ['b']] ∧ x.config.settings.squareWidth = 9 ∧
      x.config.tags.tagless = .ofWords "y\tX".toList 1 ∧
      ∃ x', Draft.feedAll ts (.start given) = .ok x' ∧
        x'.config.questions = x.config.questions ∧ x'.config.settings.squareWidth = 9 := by
  intro ask width ts us given
  have hsame : Token.SameByKey ts us :=
    ⟨by decide, fun s => by cases s <;> decide, fun list => by cases list <;> decide⟩
  have hok : (Draft.feedAll ts (.start .initial)).isOk = true := by decide +kernel
  cases hx : Draft.feedAll ts (.start .initial) with
  | error e =>
    rw [hx] at hok
    cases hok
  | ok x =>
    obtain ⟨hcongr, hheld, hother⟩ := settings_and_outline_apart .initial ts
    obtain ⟨hlast, hkeybinds, htags⟩ := hheld x hx
    have hwidth : x.config.settings.squareWidth = 9 :=
      (Except.ok.inj (hlast .backgroundSquareWidth (by decide))).symm
    obtain ⟨haccepted, -, hdiffers⟩ := hother given
    obtain ⟨x', hx'⟩ := haccepted.mp ⟨x, hx⟩
    obtain ⟨hquestions, -, -, hfields, -⟩ := hdiffers x x' hx hx'
    have hblank : ∀ c ∈ ['\t'], isBlank c = true := List.forall_mem_singleton.mpr (by decide)
    refine ⟨hsame, x, (hcongr us hsame x).mp hx, hkeybinds, hwidth, ?_, x', hx', hquestions, ?_⟩
    · exact htags .tagless [['y'], ['X']] ['\t'] (by decide) (by decide) hblank
    · exact (hfields .backgroundSquareWidth (by decide) (by decide)).trans hwidth

end Questionnaire
