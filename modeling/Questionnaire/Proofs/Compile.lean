import Questionnaire.Proofs.OutlineRun
import Questionnaire.Proofs.Tokenize
import Questionnaire.Template.Config

/-!
# What a template compiles to

The keys of a template belong to its outline, to its settings or to its default
tags, and none of the three depends on the others.  So a template compiles when
its outline is one of the grammar and every value fits its setting.

## Main definitions

* `Token.mark?`, `Token.setting?`, `Token.tagList?` — the key of a token among
  those of its kind, with its value.
* `Setting.Accepts` — a value can be read for a setting.

## Main results

* `Draft.feedAll_eq_ok_iff` — compiling is three runs side by side.
* `Settings.exists_setAll_iff` — the settings accept what each of them accepts.
* `compileWith_eq_error` — an error comes from reading or from a token that does not fit.
* `compileWith_reads_outline` — **which templates compile, and what their outlines
  become.**
-/

namespace Questionnaire

open Text

/-! ### Three kinds of keys -/

namespace Token

/-- The key of the outline that a token holds, with its value. -/
def mark? (t : Token) : Option (Mark × Text) :=
  match t.key with
  | .outline mark => some (mark, t.value)
  | .tags _ => none
  | .setting _ => none

/-- The setting that a token holds, with its value. -/
def setting? (t : Token) : Option (Setting × Text) :=
  match t.key with
  | .outline _ => none
  | .tags _ => none
  | .setting s => some (s, t.value)

/-- The list of default tags that a token holds. -/
def tagList? (t : Token) : Option (TagList × Text) :=
  match t.key with
  | .outline _ => none
  | .tags list => some (list, t.value)
  | .setting _ => none

theorem mark?_eq_some_iff {t : Token} {mark : Mark} {value : Text} :
    t.mark? = some (mark, value) ↔ t.key = .outline mark ∧ t.value = value := by
  obtain ⟨position, key, v⟩ := t
  cases key <;> simp [mark?]

theorem setting?_eq_some_iff {t : Token} {s : Setting} {value : Text} :
    t.setting? = some (s, value) ↔ t.key = .setting s ∧ t.value = value := by
  obtain ⟨position, key, v⟩ := t
  cases key <;> simp [setting?]

end Token

/-- The settings after further values, up to the first that does not fit. -/
def Settings.setAll (entries : List (Setting × Text)) (s : Settings) :
    Except SettingFault Settings :=
  entries.foldlM (fun s entry => s.set entry.1 entry.2) s

/-- The default tags with further lists. -/
def DefaultTags.addAll (entries : List (TagList × Text)) (tags : DefaultTags) : DefaultTags :=
  entries.foldl (fun tags entry => tags.add entry.1 entry.2) tags

/-! ### Compiling as three runs -/

namespace Draft

variable {d d' : Draft} {position : Position} {value : Text}

theorem feed_outline_eq_ok_iff {mark : Mark} :
    d.feed ⟨position, .outline mark, value⟩ = .ok d' ↔
      ∃ o, d.outline.step mark value = .ok o ∧ d' = { d with outline := o } := by
  rw [feed, Except.mapError_eq_ok, put, Except.bind_pure_eq_ok]
  simp only [Except.mapError_eq_ok]

theorem feed_setting_eq_ok_iff {s : Setting} :
    d.feed ⟨position, .setting s, value⟩ = .ok d' ↔
      ∃ settings, d.settings.set s value = .ok settings ∧ d' = { d with settings } := by
  rw [feed, Except.mapError_eq_ok, put, Except.bind_pure_eq_ok]
  simp only [Except.mapError_eq_ok]

theorem feed_tags_eq_ok_iff {list : TagList} :
    d.feed ⟨position, .tags list, value⟩ = .ok d' ↔
      d' = { d with tags := d.tags.add list value } := by
  rw [feed, Except.mapError_eq_ok, put]
  exact ⟨fun h => (Except.ok.inj h).symm, fun h => h ▸ rfl⟩

/-- **Compiling is three runs side by side:** the tokens of each kind are read as though
the others were not there. -/
theorem feedAll_eq_ok_iff {tokens : List Token} {d d' : Draft} :
    feedAll tokens d = .ok d' ↔
      Outline.run (tokens.filterMap Token.mark?) d.outline = .ok d'.outline ∧
      Settings.setAll (tokens.filterMap Token.setting?) d.settings = .ok d'.settings ∧
      DefaultTags.addAll (tokens.filterMap Token.tagList?) d.tags = d'.tags := by
  unfold feedAll Outline.run Settings.setAll DefaultTags.addAll
  induction tokens generalizing d with
  | nil =>
    obtain ⟨settings, tags, outline⟩ := d
    obtain ⟨settings', tags', outline'⟩ := d'
    simp only [List.filterMap_nil, List.foldlM_nil, List.foldl_nil, pure, Except.pure,
      Except.ok.injEq, Draft.mk.injEq]
    tauto
  | cons t tokens ih =>
    obtain ⟨position, key, value⟩ := t
    rw [Except.foldlM_cons_eq_ok]
    -- a token is a step of one run, and the other two runs pass over it
    cases key with
    | outline mark =>
      simp only [List.filterMap_cons, Token.mark?, Token.setting?, Token.tagList?,
        Except.foldlM_cons_eq_ok]
      constructor
      · rintro ⟨m, hm, hrest⟩
        obtain ⟨o, ho, rfl⟩ := feed_outline_eq_ok_iff.mp hm
        obtain ⟨houtline, hmore⟩ := ih.mp hrest
        exact ⟨⟨o, ho, houtline⟩, hmore⟩
      · rintro ⟨⟨o, ho, houtline⟩, hmore⟩
        exact ⟨_, feed_outline_eq_ok_iff.mpr ⟨o, ho, rfl⟩, ih.mpr ⟨houtline, hmore⟩⟩
    | tags list =>
      simp only [List.filterMap_cons, Token.mark?, Token.setting?, Token.tagList?,
        List.foldl_cons]
      constructor
      · rintro ⟨m, hm, hrest⟩
        obtain rfl := feed_tags_eq_ok_iff.mp hm
        exact ih.mp hrest
      · intro h
        exact ⟨_, feed_tags_eq_ok_iff.mpr rfl, ih.mpr h⟩
    | setting s =>
      simp only [List.filterMap_cons, Token.mark?, Token.setting?, Token.tagList?,
        Except.foldlM_cons_eq_ok]
      constructor
      · rintro ⟨m, hm, hrest⟩
        obtain ⟨settings, hset, rfl⟩ := feed_setting_eq_ok_iff.mp hm
        obtain ⟨houtline, hsettings, htags⟩ := ih.mp hrest
        exact ⟨houtline, ⟨settings, hset, hsettings⟩, htags⟩
      · rintro ⟨houtline, ⟨settings, hset, hsettings⟩, htags⟩
        exact ⟨_, feed_setting_eq_ok_iff.mpr ⟨settings, hset, rfl⟩,
          ih.mpr ⟨houtline, hsettings, htags⟩⟩

end Draft

/-! ### Settings -/

/-- A value can be read for a setting; a source and a keybind may be any text, and a
width is not zero. -/
def Setting.Accepts : Setting → Text → Prop
  | .defaultSource, _ => True
  | .defaultSafety, value => ∃ safety, Safety.read? (trim value) = some safety
  | .maxOpenFiles, value => ∃ n, Numeral.read? Settings.greatestOpenFiles (trim value) = some n
  | .updateInterval, value => ∃ interval, Interval.read? value = some interval
  | .maxImageBufsize, value => ∃ bytes, Size.read value = .ok bytes
  | .backgroundColorOne, value => ∃ color, Color.read value = .ok color
  | .backgroundColorTwo, value => ∃ color, Color.read value = .ok color
  | .backgroundSquareWidth, value =>
    ∃ n, Numeral.read? Settings.greatestWidth (trim value) = some n ∧ n ≠ 0
  | .keybind, _ => True
  | .defaultImageQuality, value => ∃ quality, Quality.read? (trim value) = some quality

namespace Settings

theorem orFault_eq_ok_iff {α : Type} {fault : SettingFault} {x : Option α} {a : α} :
    orFault fault x = .ok a ↔ x = some a := by
  cases x <;> simp [orFault]

theorem readWidth_eq_ok_iff {value : Text} {n : Nat} :
    readWidth value = .ok n ↔ Numeral.read? greatestWidth (trim value) = some n ∧ n ≠ 0 := by
  rw [readWidth, Except.bind_eq_ok]
  constructor
  · rintro ⟨m, hm, h⟩
    split at h
    · cases h
    · next hne =>
      cases h
      exact ⟨orFault_eq_ok_iff.mp hm, hne⟩
  · rintro ⟨hn, hne⟩
    exact ⟨n, orFault_eq_ok_iff.mpr hn, if_neg hne⟩

/-- A step that reads a value and stores it succeeds when the value can be read. -/
theorem exists_store_iff {α : Type} {x : Except SettingFault α} {store : α → Settings} :
    (∃ s, (x >>= fun a => pure (store a)) = .ok s) ↔ ∃ a, x = .ok a := by
  simp only [Except.bind_pure_eq_ok]
  constructor
  · rintro ⟨s, a, ha, -⟩
    exact ⟨a, ha⟩
  · rintro ⟨a, ha⟩
    exact ⟨store a, a, ha, rfl⟩

/-- A setting takes the values that it accepts, whatever the settings are. -/
theorem exists_set_iff (s : Settings) (setting : Setting) (value : Text) :
    (∃ s', s.set setting value = .ok s') ↔ setting.Accepts value := by
  cases setting with
  | defaultSource => exact ⟨fun _ => trivial, fun _ => ⟨_, rfl⟩⟩
  | keybind => exact ⟨fun _ => trivial, fun _ => ⟨_, rfl⟩⟩
  | defaultSafety =>
    rw [set, exists_store_iff, Setting.Accepts]
    exact exists_congr fun _ => orFault_eq_ok_iff
  | maxOpenFiles =>
    rw [set, exists_store_iff, Setting.Accepts]
    exact exists_congr fun _ => orFault_eq_ok_iff
  | updateInterval =>
    rw [set, exists_store_iff, Setting.Accepts]
    exact exists_congr fun _ => orFault_eq_ok_iff
  | maxImageBufsize =>
    rw [set, exists_store_iff, Setting.Accepts]
    exact exists_congr fun _ => Except.mapError_eq_ok
  | backgroundColorOne =>
    rw [set, exists_store_iff, Setting.Accepts]
    exact exists_congr fun _ => Except.mapError_eq_ok
  | backgroundColorTwo =>
    rw [set, exists_store_iff, Setting.Accepts]
    exact exists_congr fun _ => Except.mapError_eq_ok
  | backgroundSquareWidth =>
    rw [set, exists_store_iff, Setting.Accepts]
    exact exists_congr fun _ => readWidth_eq_ok_iff
  | defaultImageQuality =>
    rw [set, exists_store_iff, Setting.Accepts]
    exact exists_congr fun _ => orFault_eq_ok_iff

theorem exists_setAll_iff (entries : List (Setting × Text)) (s : Settings) :
    (∃ s', setAll entries s = .ok s') ↔ ∀ entry ∈ entries, entry.1.Accepts entry.2 := by
  unfold setAll
  induction entries generalizing s with
  | nil => exact ⟨fun _ entry h => absurd h List.not_mem_nil, fun _ => ⟨s, rfl⟩⟩
  | cons entry entries ih =>
    rw [List.forall_mem_cons, ← exists_set_iff s]
    simp only [Except.foldlM_cons_eq_ok]
    constructor
    · rintro ⟨s', m, hm, hrest⟩
      exact ⟨⟨m, hm⟩, (ih m).mp ⟨s', hrest⟩⟩
    · rintro ⟨⟨m, hm⟩, hrest⟩
      obtain ⟨s', hs'⟩ := (ih m).mpr hrest
      exact ⟨s', m, hm, hs'⟩

end Settings

/-! ### The theorem -/

/-- A template compiles to the drafts that its tokens lead to. -/
theorem compileWith_eq_ok_iff {settings : Settings} {source : Text} {tokens : List Token}
    (h : tokenize source = .ok tokens) {config : Config} :
    compileWith settings source = .ok config ↔
      ∃ d, Draft.feedAll tokens (.start settings) = .ok d ∧ d.config = config := by
  rw [compileWith, h, Except.bind_eq_ok]
  constructor
  · rintro ⟨_, ⟨⟩, hrest⟩
    obtain ⟨d, hd, hconfig⟩ := Except.bind_pure_eq_ok.mp hrest
    exact ⟨d, hd, hconfig.symm⟩
  · rintro ⟨d, hd, rfl⟩
    exact ⟨tokens, rfl, Except.bind_pure_eq_ok.mpr ⟨d, hd, rfl⟩⟩

/-- A template is refused because it cannot be read, or else for its first token that does
not fit. -/
theorem compileWith_eq_error {settings : Settings} {source : Text} {e : TemplateError} :
    compileWith settings source = .error e ↔ tokenize source = .error e ∨
      ∃ tokens, tokenize source = .ok tokens ∧
        Draft.feedAll tokens (.start settings) = .error e := by
  rw [compileWith, Except.bind_eq_error]
  refine or_congr_right (exists_congr fun tokens => and_congr_right fun _ => ?_)
  rw [Except.bind_pure_eq_map, Except.map_eq_error]

/-- The tags of tokens are those of their outline. -/
theorem Token.tagsUnbroken_iff (tokens : List Token) :
    Passage.TagsUnbroken (tokens.filterMap mark?) ↔
      ∀ t ∈ tokens, t.key = .outline .optionTag → ∀ c ∈ t.value, isBlank c = false := by
  have hany : ∀ value : Text, value.any isBlank = false ↔ ∀ c ∈ value, isBlank c = false := by
    intro value
    simp only [List.any_eq_false, Bool.not_eq_true]
  unfold Passage.TagsUnbroken
  simp only [hany]
  constructor
  · intro h t ht hkey
    have hmem := List.mem_filterMap.mpr ⟨t, ht, mark?_eq_some_iff.mpr ⟨hkey, rfl⟩⟩
    exact h (.optionTag, t.value) hmem rfl
  · rintro h ⟨mark, value⟩ hentry rfl
    obtain ⟨t, ht, hmark⟩ := List.mem_filterMap.mp hentry
    obtain ⟨hkey, rfl⟩ := mark?_eq_some_iff.mp hmark
    exact h t ht hkey

theorem Token.accepts_iff (tokens : List Token) :
    (∀ entry ∈ tokens.filterMap setting?, entry.1.Accepts entry.2) ↔
      ∀ t ∈ tokens, ∀ s, t.key = .setting s → s.Accepts t.value := by
  constructor
  · intro h t ht s hkey
    exact h (s, t.value) (List.mem_filterMap.mpr ⟨t, ht, setting?_eq_some_iff.mpr ⟨hkey, rfl⟩⟩)
  · rintro h ⟨s, value⟩ hentry
    obtain ⟨t, ht, hset⟩ := List.mem_filterMap.mp hentry
    obtain ⟨hkey, rfl⟩ := setting?_eq_some_iff.mp hset
    exact h t ht s hkey

/-- **Which templates compile, and what their outlines become.**  A source with tokens
compiles if and only if the keys of its outline make a word of the grammar, no tag has a
blank in it, and every setting accepts its values.  The outline then is a script, and
the configuration has the questions and the rules of that script. -/
theorem compileWith_reads_outline (settings : Settings) {source : Text} {tokens : List Token}
    (h : tokenize source = .ok tokens) :
    ((∃ config, compileWith settings source = .ok config) ↔
      Passage.letters (tokens.filterMap Token.mark?) ∈ outlineGrammar.matches' ∧
      (∀ t ∈ tokens, t.key = .outline .optionTag → ∀ c ∈ t.value, isBlank c = false) ∧
      ∀ t ∈ tokens, ∀ s, t.key = .setting s → s.Accepts t.value) ∧
    ∀ config, compileWith settings source = .ok config →
      (∃ script : Script, script.written = tokens.filterMap Token.mark?) ∧
      ∀ script : Script, script.written = tokens.filterMap Token.mark? →
        config.questions = script.questions ∧ config.rules = script.rules := by
  simp only [compileWith_eq_ok_iff h]
  refine ⟨?_, ?_⟩
  · rw [← Token.tagsUnbroken_iff, ← Token.accepts_iff, ← and_assoc, ← Outline.exists_run_iff,
      ← Settings.exists_setAll_iff _ settings]
    constructor
    · rintro ⟨_, d, hd, -⟩
      obtain ⟨houtline, hsettings, -⟩ := Draft.feedAll_eq_ok_iff.mp hd
      exact ⟨⟨_, houtline⟩, ⟨_, hsettings⟩⟩
    · rintro ⟨⟨outline, houtline⟩, ⟨s, hsettings⟩⟩
      exact ⟨_, ⟨s, _, outline⟩, Draft.feedAll_eq_ok_iff.mpr ⟨houtline, hsettings, rfl⟩, rfl⟩
  · rintro _ ⟨d, hd, rfl⟩
    obtain ⟨houtline, -⟩ := Draft.feedAll_eq_ok_iff.mp hd
    obtain ⟨⟨script, hscript, -⟩, hunbroken⟩ := Script.exists_of_run houtline
    refine ⟨⟨script, hscript⟩, fun other hother => ?_⟩
    -- whatever the script, its run is the run of the tokens
    obtain ⟨stage, hrun⟩ := Outline.run_script other (hother ▸ hunbroken)
    rw [hother] at hrun
    have hsame : d.outline = ⟨stage, other.questions, other.rules⟩ :=
      Except.ok.inj (houtline.symm.trans hrun)
    exact ⟨congrArg Outline.questions hsame, congrArg Outline.rules hsame⟩

/-- A choice with a setting between a label and its tag, and a rule of which one half is
given twice before the other. -/
theorem compileWith_reads_outline_choice :
    let source := "CHECK_QUESTION:\"q\"OPTION_NAME:\"a\"".toList ++
      "IMAGE_BACKGROUND_SQUARE_WIDTH:\"2\"OPTION_TAG:\"t\"".toList ++
      "ALIAS_TAG_TO:\"x\"ALIAS_TAG_TO:\"y\"ALIAS_TAG_FROM:\"z\"".toList
    ∃ tokens, tokenize source = .ok tokens ∧
      ∃ config, compileWith .initial source = .ok config ∧
        config.questions = [.choice .check ['q'] [⟨['a'], ['t']⟩]] ∧
        config.rules = RuleTable.empty.addRule ['z'] ['y'] := by
  intro source
  let blocks : List Block :=
    [.compact (.outline (.choice .check)) ['q'] (by decide),
      .compact (.outline .optionName) ['a'] (by decide),
      .compact (.setting .backgroundSquareWidth) ['2'] (by decide),
      .compact (.outline .optionTag) ['t'] (by decide),
      .compact (.outline .aliasTo) ['x'] (by decide),
      .compact (.outline .aliasTo) ['y'] (by decide),
      .compact (.outline .aliasFrom) ['z'] (by decide)]
  let script : Script :=
    ⟨[.choice .check ['q'] [] ⟨[['a']], ['t']⟩, .rule .dependents [['x']] ['y'] ['z']], .nothing⟩
  have hsource : source = blocks.flatMap Block.written := by decide +kernel
  have hread : tokenize source = .ok (Block.tokensBehind [] blocks) := by
    rw [hsource]
    exact tokenize_blocks blocks
  have hoffer := compileWith_reads_outline .initial hread
  have hsettings : ∀ t ∈ Block.tokensBehind [] blocks, ∀ s, t.key = .setting s →
      s.Accepts t.value := by
    rw [← Token.accepts_iff]
    intro entry hentry
    obtain rfl : entry = (.backgroundSquareWidth, ['2']) := List.mem_singleton.mp hentry
    exact ⟨2, by decide, by decide⟩
  have htags := (Token.tagsUnbroken_iff (Block.tokensBehind [] blocks)).mp (by
    unfold Passage.TagsUnbroken
    decide)
  obtain ⟨config, hconfig⟩ := hoffer.1.mpr ⟨by decide, htags, hsettings⟩
  obtain ⟨hquestions, hrules⟩ := (hoffer.2 config hconfig).2 script rfl
  exact ⟨_, hread, config, hconfig, hquestions, hrules⟩

end Questionnaire
