import Questionnaire.CommandLine.Run
import Questionnaire.Proofs.Levels
import Questionnaire.Proofs.Lines
import Questionnaire.Proofs.Multiplicity
import Questionnaire.Proofs.OutlineCounts
import Questionnaire.Proofs.Separation
import Questionnaire.Proofs.VisibleText

/-!
# Summaries keep their layout

A summary shows texts of the template itself: the names of default tags as they are, and the
default source in visible form.  A name of a default tag is the lowercase form of a word, so
no blank is in it; hence no name closes a row early, and the spaces of a row of names part
them.  Everything else that is shown is made of numbers and of fixed words.  So there is one
row for each thing that is counted or set, and what a row says is read back from it.

## Main definitions

* `Settings.summaryRows` — the rows of the settings.
* `namesIn` — the names in a text, parted by single spaces.

## Main results

* `Config.newline_not_mem_of_mem_summaryRows` — rows of plain names stay rows.
* `namesIn_intercalate` — names are read back from their row.
* `Draft.mem_names_of_feedAll` — the default tags of a key are the words of its values.
* `Command.summary_keeps_layout` — **no template breaks the layout of its summary.**
-/

namespace Questionnaire

open Text

/-! ### Values on one line -/

theorem Numeral.newline_not_mem_pad {fill : Char} {digits : Text} (hfill : fill ≠ '\n')
    (h : '\n' ∉ digits) (width : Nat) : '\n' ∉ pad fill width digits := by
  rw [pad, List.mem_append, not_or]
  exact ⟨fun hmem => hfill (List.eq_of_mem_replicate hmem).symm, h⟩

namespace Interval

theorem newline_not_mem_writeFraction {unit : Text} (hunit : '\n' ∉ unit)
    (whole fraction width : Nat) : '\n' ∉ writeFraction whole fraction width unit := by
  have hdigits : '\n' ∉ Numeral.pad '0' width (Numeral.write fraction) :=
    Numeral.newline_not_mem_pad (by decide) (Numeral.newline_not_mem_write fraction) width
  have hshown : '\n' ∉ ((Numeral.pad '0' width (Numeral.write fraction)).reverse.dropWhile
      (· == '0')).reverse := fun h =>
    hdigits (List.mem_reverse.mp (List.dropWhile_subset _ (List.mem_reverse.mp h)))
  rw [writeFraction, List.mem_append, List.mem_append, not_or, not_or]
  refine ⟨⟨Numeral.newline_not_mem_write whole, ?_⟩, hunit⟩
  split_ifs
  · exact List.not_mem_nil
  · exact List.not_mem_cons_of_ne_of_not_mem (by decide) hshown

theorem newline_not_mem_write (i : Interval) : '\n' ∉ i.write := by
  simp only [write]
  split_ifs
  · exact newline_not_mem_writeFraction (by decide) _ _ _
  · exact newline_not_mem_writeFraction (by decide) _ _ _
  · exact newline_not_mem_writeFraction (by decide) _ _ _
  · exact newline_not_mem_writeFraction (by decide) _ _ _

end Interval

theorem Color.newline_not_mem_hex (c : Color) : '\n' ∉ c.hex := by
  refine List.not_mem_cons_of_ne_of_not_mem (by decide) fun h => ?_
  obtain ⟨byte, -, hbyte⟩ := List.mem_flatMap.mp h
  refine Numeral.newline_not_mem_pad (by decide) (fun hdigit => ?_) 2 hbyte
  obtain ⟨d, hd, hnewline⟩ := exists_of_mem_hexDigits hdigit
  exact (digitChar_ne d hd).2 hnewline.symm

theorem Question.newline_not_mem_kindName (q : Question) : '\n' ∉ q.kindName := by
  have hprompt : ∀ kind : Prompt, '\n' ∉ kind.word := fun kind => by cases kind <;> decide
  have hchoice : ∀ kind : Choice, '\n' ∉ kind.word := fun kind => by cases kind <;> decide
  cases q with
  | prompt kind _ => exact hprompt kind
  | choice kind _ _ => exact hchoice kind

/-! ### Rows of names -/

/-- The names in a text, parted by single spaces; an empty text has none. -/
def namesIn (t : Text) : List Text := if t = [] then [] else t.splitOn ' '

theorem not_mem_of_solid {t : Text} (h : Solid t) {c : Char} (hc : isBlank c = true) : c ∉ t := by
  intro hmem
  rw [h c hmem] at hc
  cases hc

/-- Solid names stay on one line. -/
theorem newline_not_mem_intercalate {names : List Text} (h : ∀ name ∈ names, Solid name) :
    '\n' ∉ [' '].intercalate names := by
  induction names with
  | nil => exact List.not_mem_nil
  | cons name names ih =>
    rw [List.forall_mem_cons] at h
    have hname : '\n' ∉ name := not_mem_of_solid h.1 (by decide)
    cases names with
    | nil => rwa [List.intercalate_singleton]
    | cons next more =>
      rw [List.intercalate_cons_of_ne_nil (List.cons_ne_nil _ _), List.mem_append, List.mem_append,
        not_or, not_or]
      exact ⟨⟨hname, by decide⟩, ih h.2⟩

/-- **Names are read back from their row.** -/
theorem namesIn_intercalate {names : List Text} (h : ∀ name ∈ names, TagName name) :
    namesIn ([' '].intercalate names) = names := by
  cases names with
  | nil => rfl
  | cons name more =>
    have hne : [' '].intercalate (name :: more) ≠ [] :=
      Registry.intercalate_ne_nil List.mem_cons_self (h name List.mem_cons_self).ne_nil
    rw [namesIn, if_neg hne]
    refine List.splitOn_intercalate ' ' (fun other hother => ?_) (List.cons_ne_nil _ _)
    exact not_mem_of_solid (h other hother).solid (by decide)

/-! ### Rows -/

theorem newline_not_mem_summaryRow {name value : Text} (hname : '\n' ∉ name)
    (hvalue : '\n' ∉ value) : '\n' ∉ summaryRow name value := by
  rw [summaryRow, List.mem_append, List.mem_append, not_or, not_or]
  exact ⟨⟨hname, by decide⟩, hvalue⟩

/-- The rows of the settings. -/
def Settings.summaryRows (s : Settings) : List Text :=
  [summaryRow "default source".toList (quoted s.defaultSource),
   summaryRow "default safety".toList s.defaultSafety.word,
   summaryRow "max open files".toList (Numeral.write s.maxOpenFiles),
   summaryRow "update interval".toList s.updateInterval.write,
   summaryRow "max image buffer".toList (Numeral.write s.maxImageBuffer ++ " bytes".toList),
   summaryRow "background".toList
     (s.backgroundOne.hex ++ " / ".toList ++ s.backgroundTwo.hex ++ " (".toList ++
       Numeral.write s.squareWidth ++ " px squares)".toList),
   summaryRow "image quality".toList s.defaultQuality.title,
   summaryRow "keybinds".toList (Numeral.write s.keybinds.length)]

theorem Settings.newline_not_mem_of_mem_summaryRows (s : Settings) :
    ∀ row ∈ s.summaryRows, '\n' ∉ row := by
  have hnumber := Numeral.newline_not_mem_write
  have hsafety : '\n' ∉ s.defaultSafety.word := by cases s.defaultSafety <;> decide
  have hquality : '\n' ∉ s.defaultQuality.title := by cases s.defaultQuality <;> decide
  have hbackground : '\n' ∉ s.backgroundOne.hex ++ " / ".toList ++ s.backgroundTwo.hex ++
      " (".toList ++ Numeral.write s.squareWidth ++ " px squares)".toList := by
    simp [Color.newline_not_mem_hex, hnumber]
  rw [summaryRows]
  simp only [List.forall_mem_cons]
  refine ⟨?_, ?_, ?_, ?_, ?_, ?_, ?_, ?_, fun _ h => absurd h List.not_mem_nil⟩
  · exact newline_not_mem_summaryRow (by decide) (newline_not_mem_quoted _)
  · exact newline_not_mem_summaryRow (by decide) hsafety
  · exact newline_not_mem_summaryRow (by decide) (hnumber _)
  · exact newline_not_mem_summaryRow (by decide) s.updateInterval.newline_not_mem_write
  · exact newline_not_mem_summaryRow (by decide) (by simp [hnumber])
  · exact newline_not_mem_summaryRow (by decide) hbackground
  · exact newline_not_mem_summaryRow (by decide) hquality
  · exact newline_not_mem_summaryRow (by decide) (hnumber _)

namespace Config

theorem summaryRows_eq (c : Config) : c.summaryRows =
    [summaryRow "questions".toList (Numeral.write c.questions.length)] ++
    c.kindCounts.map (fun entry => summaryRow (' ' :: ' ' :: entry.1) (Numeral.write entry.2)) ++
    [summaryRow "alias triggers".toList (Numeral.write c.rules.triggers.length),
     summaryRow "nameless tags".toList ([' '].intercalate (c.tags.of .nameless).names),
     summaryRow "sourceless tags".toList ([' '].intercalate (c.tags.of .sourceless).names),
     summaryRow "tagless tags".toList ([' '].intercalate (c.tags.of .tagless).names)] ++
    c.settings.summaryRows := by
  simp only [summaryRows, Settings.summaryRows, DefaultTags.of, List.append_assoc,
    List.cons_append, List.nil_append]

theorem length_summaryRows (c : Config) :
    c.summaryRows.length = 13 + (c.questions.map Question.kind).dedup.length := by
  rw [summaryRows_eq, ← c.length_kindCounts]
  simp only [Settings.summaryRows, List.length_append, List.length_cons, List.length_nil,
    List.length_map]
  omega

/-- **Rows of plain names stay rows:** no row has a line feed. -/
theorem newline_not_mem_of_mem_summaryRows {c : Config} (h : ∀ list, (c.tags.of list).Plain) :
    ∀ row ∈ c.summaryRows, '\n' ∉ row := by
  have hnumber := Numeral.newline_not_mem_write
  have hkinds : ∀ entry ∈ c.kindCounts, '\n' ∉ ' ' :: ' ' :: entry.1 := by
    intro entry hentry
    rw [kindCounts_eq] at hentry
    obtain ⟨q, -, hq⟩ := List.mem_map.mp (Index.mem_names_tally.mp (Index.mem_names_of_mem hentry))
    simp [← hq, q.newline_not_mem_kindName]
  have hnames : ∀ list, '\n' ∉ [' '].intercalate (c.tags.of list).names := fun list =>
    newline_not_mem_intercalate fun _ hname => ((h list).tagName hname).solid
  rw [summaryRows_eq]
  simp only [List.forall_mem_append, List.forall_mem_cons, List.forall_mem_map]
  refine ⟨⟨⟨⟨?_, ?_⟩, fun entry hentry => ?_⟩, ?_, ?_, ?_, ?_, ?_⟩,
    c.settings.newline_not_mem_of_mem_summaryRows⟩
  · exact newline_not_mem_summaryRow (by decide) (hnumber _)
  · exact fun _ h => absurd h List.not_mem_nil
  · exact newline_not_mem_summaryRow (hkinds entry hentry) (hnumber _)
  · exact newline_not_mem_summaryRow (by decide) (hnumber _)
  · exact newline_not_mem_summaryRow (by decide) (hnames _)
  · exact newline_not_mem_summaryRow (by decide) (hnames _)
  · exact newline_not_mem_summaryRow (by decide) (hnames _)
  · exact fun _ h => absurd h List.not_mem_nil

end Config

/-! ### Names of default tags -/

/-- The names of a registry that is made of a list are its words in lowercase. -/
theorem Registry.mem_names_ofWords {list name : Text} :
    name ∈ (ofWords list 1).names ↔ ∃ word ∈ words list, lowercase word = name := by
  have hregistered : (ofWords list 1).names = (ofWords list 1).registered := by
    rw [names, (plain_ofWords list).applied_eq, registered]
  rw [hregistered, ofWords, canonical_empty.mem_registered_touchWords, mentions,
    List.count_pos_iff, List.mem_map]
  exact or_iff_right List.not_mem_nil

/-- **The default tags of a key are the words of its values,** in lowercase. -/
theorem Draft.mem_names_of_feedAll {tokens : List Token} {settings : Settings} {x : Draft}
    (h : feedAll tokens (.start settings) = .ok x) {list : TagList} {name : Text} :
    name ∈ (x.tags.of list).names ↔ ∃ value ∈ Token.valuesOf (.tags list) tokens,
      ∃ word ∈ words value, lowercase word = name := by
  have hblank : ∀ c ∈ [' '], isBlank c = true := List.forall_mem_singleton.mpr rfl
  have hsep : [' '] ≠ [] := List.cons_ne_nil _ _
  rw [tags_of_feedAll h (.refl _) hsep hblank, DefaultTags.strength, Registry.mem_names_ofWords,
    words_intercalate hsep hblank]
  simp only [List.mem_flatMap]
  constructor
  · rintro ⟨word, ⟨value, hvalue, hword⟩, hname⟩
    exact ⟨value, hvalue, word, hword, hname⟩
  · rintro ⟨value, hvalue, word, hword, hname⟩
    exact ⟨word, ⟨value, hvalue, hword⟩, hname⟩

/-! ### Triggers -/

/-- The triggers are the words that a script of the template binds. -/
theorem Draft.length_triggers_of_feedAll {tokens : List Token} {x : Draft}
    (h : feedAll tokens (.start .initial) = .ok x) (hsound : x.Sound) {script : Script}
    (hscript : script.written = tokens.filterMap Token.mark?) :
    x.outline.rules.triggers.length = script.boundWords.dedup.length := by
  obtain ⟨hrun, -⟩ := feedAll_eq_ok_iff.mp h
  obtain ⟨-, hunbroken⟩ := Script.exists_of_run hrun
  -- whatever the script, its run is the run of the tokens
  obtain ⟨stage, hsame⟩ := Outline.run_script script (hscript ▸ hunbroken)
  rw [hscript] at hsame
  have hrules : x.outline.rules = script.rules :=
    congrArg Outline.rules (Except.ok.inj (hrun.symm.trans hsame))
  rw [hrules]
  exact Script.length_triggers_rules (hrules ▸ hsound.outline.rules.ascending)

/-! ### The theorem -/

/-- **No template breaks the layout of its summary.**  A template that compiles has a summary;
its line feeds close thirteen rows and one more for each kind of question that is used.  The
rows of the kinds come in ascending order of their words, and each tells how many questions
of its kind there are, one at least; together they make up the number of questions that is
shown, and the questions are of the kinds that the keys of the template ask.  The names in the
row of a registry are the words of all values of its key, in lowercase, ascending, each
once.  The number of triggers is that of the different words, in lowercase, among the
triggers of complete rules with a word on both sides. -/
theorem Command.summary_keeps_layout {source : Text} {config : Config}
    (h : compile source = .ok config) :
    ∃ (tokens : List Token) (report : Text) (counts : List (Text × Nat)) (triggers : Nat)
      (shown : TagList → Text),
      tokenize source = .ok tokens ∧ check.run source = .ok report ∧
      report.splitOn '\n' =
        [summaryRow "questions".toList (Numeral.write config.questions.length)] ++
        counts.map (fun entry => summaryRow (' ' :: ' ' :: entry.1) (Numeral.write entry.2)) ++
        [summaryRow "alias triggers".toList (Numeral.write triggers),
         summaryRow "nameless tags".toList (shown .nameless),
         summaryRow "sourceless tags".toList (shown .sourceless),
         summaryRow "tagless tags".toList (shown .tagless)] ++
        config.settings.summaryRows ++ [[]] ∧
      report.count '\n' = 13 + (config.questions.map Question.kind).dedup.length ∧
      config.questions.map Question.kind = Passage.kinds (tokens.filterMap Token.mark?) ∧
      counts.length = (config.questions.map Question.kind).dedup.length ∧
      counts.Pairwise (·.1 < ·.1) ∧
      (∀ name n, (name, n) ∈ counts ↔
        n = (config.questions.map Question.kindName).count name ∧ 0 < n) ∧
      (counts.map (·.2)).sum = config.questions.length ∧
      (∀ list, (namesIn (shown list)).Pairwise (· < ·) ∧
        ∀ name, name ∈ namesIn (shown list) ↔ ∃ value ∈ Token.valuesOf (.tags list) tokens,
          ∃ word ∈ words value, lowercase word = name) ∧
      (∃ script : Script, script.written = tokens.filterMap Token.mark?) ∧
      ∀ script : Script, script.written = tokens.filterMap Token.mark? →
        triggers = script.boundWords.dedup.length := by
  obtain ⟨tokens, x, htokens, hx, hsound, rfl⟩ := Draft.exists_draft_of_compile h
  obtain ⟨hrun, -⟩ := Draft.feedAll_eq_ok_iff.mp hx
  obtain ⟨⟨script, hscript, -⟩, -⟩ := Script.exists_of_run hrun
  have hrows := Config.newline_not_mem_of_mem_summaryRows (c := x.config) hsound.tags
  have hread : ∀ list, namesIn ([' '].intercalate (x.tags.of list).names) =
      (x.tags.of list).names := fun list =>
    namesIn_intercalate fun _ hname => (hsound.tags list).tagName hname
  refine ⟨tokens, x.config.summary, x.config.kindCounts, x.outline.rules.triggers.length,
    fun list => [' '].intercalate (x.tags.of list).names, htokens, ?_, ?_, ?_, ?_,
    x.config.length_kindCounts, ?_, ?_, ?_, fun list => ⟨?_, fun name => ?_⟩, ⟨script, hscript⟩, ?_⟩
  · rw [run, h]
    rfl
  · rw [Config.summary, splitOn_unlines hrows, Config.summaryRows_eq]
    rfl
  · rw [Config.summary, count_unlines hrows, Config.length_summaryRows]
  · exact Outline.kinds_run hrun
  · rw [Config.kindCounts_eq]
    exact List.pairwise_map.mp (Index.ascending_tally _)
  · intro name n
    rw [Config.kindCounts_eq]
    exact Index.mem_tally_iff
  · rw [Config.kindCounts_eq, Index.sum_tally, List.length_map]
  · rw [hread]
    exact (hsound.tags list).canonical.pairwise_names
  · rw [hread]
    exact Draft.mem_names_of_feedAll hx
  · exact fun _ => Draft.length_triggers_of_feedAll hx hsound

/-- Two kinds of questions, rules that bind a word in both cases, a rule without triggers, a
source with a line feed, and two lists of tags that share a word. -/
theorem Command.summary_keeps_layout_rebound :
    let source := "ENTRY_QUESTION:\"a\"RADIO_QUESTION:\"b\"OPTION_TAG:\"t\"".toList ++
      "ENTRY_QUESTION:\"c\"ALIAS_TAG_FROM:\"p Q\"ALIAS_TAG_TO:\"r\"".toList ++
      "ALIAS_TAG_TO:\"s\"ALIAS_TAG_FROM:\"P\nu\"ALIAS_TAG_FROM:\" \"ALIAS_TAG_TO:\"v\"".toList ++
      "TAGLESS_TAG:\"B\na\"DEFAULT_SOURCE:\"x\ny\"TAGLESS_TAG:\"b\"".toList
    ∃ config report shown, compile source = .ok config ∧ check.run source = .ok report ∧
      report.count '\n' = 15 ∧ "questions: 3".toList ∈ report.splitOn '\n' ∧
      "  entry: 2".toList ∈ report.splitOn '\n' ∧
      "alias triggers: 3".toList ∈ report.splitOn '\n' ∧
      summaryRow "tagless tags".toList shown ∈ report.splitOn '\n' ∧
      ∀ name, name ∈ namesIn shown ↔ name = ['a'] ∨ name = ['b'] := by
  intro source
  let blocks : List Block :=
    [.compact (.outline (.prompt .entry)) ['a'] (by decide),
      .compact (.outline (.choice .radio)) ['b'] (by decide),
      .compact (.outline .optionTag) ['t'] (by decide),
      .compact (.outline (.prompt .entry)) ['c'] (by decide),
      .compact (.outline .aliasFrom) ['p', ' ', 'Q'] (by decide),
      .compact (.outline .aliasTo) ['r'] (by decide),
      .compact (.outline .aliasTo) ['s'] (by decide),
      .compact (.outline .aliasFrom) ['P', '\n', 'u'] (by decide),
      .compact (.outline .aliasFrom) [' '] (by decide),
      .compact (.outline .aliasTo) ['v'] (by decide),
      .compact (.tags .tagless) ['B', '\n', 'a'] (by decide),
      .compact (.setting .defaultSource) ['x', '\n', 'y'] (by decide),
      .compact (.tags .tagless) ['b'] (by decide)]
  let script : Script :=
    ⟨[.prompt .entry ['a'], .choice .radio ['b'] [] ⟨[], ['t']⟩, .prompt .entry ['c'],
      .rule .triggers [] ['p', ' ', 'Q'] ['r'], .rule .dependents [] ['s'] ['P', '\n', 'u'],
      .rule .triggers [] [' '] ['v']], .nothing⟩
  have hsource : source = blocks.flatMap Block.written := by decide +kernel
  have hread : tokenize source = .ok (Block.tokensBehind [] blocks) := by
    rw [hsource]
    exact tokenize_blocks blocks
  have hok : (Draft.feedAll (Block.tokensBehind [] blocks) (.start .initial)).isOk = true := by
    decide +kernel
  cases hx : Draft.feedAll (Block.tokensBehind [] blocks) (.start .initial) with
  | error e =>
    rw [hx] at hok
    cases hok
  | ok x =>
    let config := x.config
    have hconfig : compile source = .ok config := (compileWith_eq_ok_iff hread).mpr ⟨x, hx, rfl⟩
    obtain ⟨tokens, report, counts, triggers, shown, htokens, hrun, hrows, hcount, hkinds, -, -,
      hcounts, -, hshown, -, htriggers⟩ := summary_keeps_layout hconfig
    obtain rfl := Except.ok.inj (hread.symm.trans htokens)
    have hquestions : config.questions.map Question.kind =
        [.inl .entry, .inr .radio, .inl .entry] := hkinds.trans (by decide)
    have hthree : triggers = 3 := (htriggers script rfl).trans (by decide +kernel)
    refine ⟨config, report, shown .tagless, hconfig, hrun, ?_, ?_, ?_, ?_, ?_, ?_⟩
    · rw [hcount, hquestions]
      decide
    · have hlength : config.questions.length = 3 := by
        rw [← List.length_map (f := Question.kind), hquestions]
        rfl
      rw [hrows, hlength]
      exact List.mem_cons_self
    · have hentry : ("entry".toList, 2) ∈ counts := by
        rw [hcounts, Question.map_kindName, hquestions]
        decide
      have hrow := List.mem_map_of_mem (f := fun entry : Text × Nat =>
        summaryRow (' ' :: ' ' :: entry.1) (Numeral.write entry.2)) hentry
      rw [hrows]
      simp only [List.mem_append]
      exact Or.inl (Or.inl (Or.inl (Or.inr hrow)))
    · rw [hrows, hthree]
      simp only [List.mem_append]
      exact Or.inl (Or.inl (Or.inr List.mem_cons_self))
    · rw [hrows]
      simp
    · intro name
      have hvalues : Token.valuesOf (.tags .tagless) (Block.tokensBehind [] blocks) =
          [['B', '\n', 'a'], ['b']] := by decide +kernel
      have hfirst : words ['B', '\n', 'a'] = [['B'], ['a']] := by decide +kernel
      have hsecond : words ['b'] = [['b']] := by decide +kernel
      have hlower : lowercase ['B'] = ['b'] ∧ lowercase ['a'] = ['a'] ∧
          lowercase ['b'] = ['b'] := by decide +kernel
      rw [(hshown .tagless).2, hvalues]
      simp only [List.mem_cons, List.not_mem_nil, or_false, exists_eq_or_imp, exists_eq_left,
        hfirst, hsecond, hlower]
      grind

end Questionnaire
