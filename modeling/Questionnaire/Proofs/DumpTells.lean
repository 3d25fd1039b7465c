import Questionnaire.CommandLine.Run
import Questionnaire.Proofs.Compile
import Questionnaire.Proofs.DefaultTags
import Questionnaire.Proofs.DraftInvariant
import Questionnaire.Proofs.PrettyJson

/-!
# Dumps tell everything but sharing

A dump shows the applied names of registries, and under each trigger the names of its
registry.  In a configuration that was compiled nothing is lost by that: every tag is at
strength one, so names tell their registry.  Not shown is which triggers have one registry
in common, and colors are shown by decimal digits, which are not read back here.

## Main definitions

* `Registry.ofNames` — the registry of names at strength one.
* `RuleTable.shownBindings` — the triggers with the names of their dependents.

## Main results

* `Registry.Plain.eq_ofNames`, `RuleTable.Plain.eq_of_shownBindings_eq` — plain registries and
  tables are told by names.
* `Config.toJson_inj` — what the object of a configuration tells.
* `Command.dump_tells_config` — **templates with one dump define the same.**
-/

namespace Questionnaire

open Text Json

/-! ### Plain registries and tables -/

namespace Registry

/-- The registry of names at strength one. -/
def ofNames (names : List Text) : Registry := ⟨names.map fun name => (name, ⟨name, 1⟩)⟩

/-- A plain registry is told by its names. -/
theorem Plain.eq_ofNames {r : Registry} (h : r.Plain) : r = ofNames r.names := by
  have htags : r.tags = r.tags.map fun entry => (entry.2.name, ⟨entry.2.name, 1⟩) := by
    conv_lhs => rw [← List.map_id r.tags]
    refine List.map_congr_left fun entry hentry => ?_
    refine Prod.ext (h.canonical.name_eq entry hentry).symm ?_
    rw [← (h.plain entry.2 (List.mem_map_of_mem hentry)).strength_eq]
    rfl
  rw [ofNames, names, h.applied_eq, listing, List.map_map, List.map_map]
  exact congrArg Registry.mk htags

theorem Plain.eq_of_names_eq {r r' : Registry} (h : r.Plain) (h' : r'.Plain)
    (hnames : r.names = r'.names) : r = r' := by
  rw [h.eq_ofNames, hnames, ← h'.eq_ofNames]

end Registry

namespace RuleTable

variable {t t' : RuleTable}

/-- The triggers with the names of their dependents. -/
def shownBindings (t : RuleTable) : List (Text × List Text) :=
  t.bindings.map fun binding => (binding.1, binding.2.names)

theorem Plain.of_mem_bindings (h : t.Plain) {binding : Text × Registry}
    (hbinding : binding ∈ t.bindings) : binding.2.Plain := by
  obtain ⟨entry, hentry, rfl⟩ := List.mem_map.mp hbinding
  have hnumber := (h.triggers entry hentry).2
  dsimp only
  rw [List.getElem?_eq_getElem hnumber, Option.getD_some]
  exact (h.rules _ (List.getElem_mem hnumber)).1

theorem Plain.bindings_eq (h : t.Plain) :
    t.bindings = t.shownBindings.map fun shown => (shown.1, .ofNames shown.2) := by
  rw [shownBindings, List.map_map]
  conv_lhs => rw [← List.map_id t.bindings]
  exact List.map_congr_left fun binding hbinding =>
    Prod.ext rfl (h.of_mem_bindings hbinding).eq_ofNames

/-- What a trigger is bound to is listed with it. -/
theorem Plain.dependents?_eq (h : t.Plain) (trigger : Text) :
    t.dependents? trigger = Index.find? t.bindings (lowercase trigger) := by
  have hfind : ∀ index : Index Nat, (∀ entry ∈ index, entry.2 < t.rules.length) → ∀ name,
      (index.find? name).bind (t.rules[·]?) =
        Index.find? (index.map fun entry => (entry.1, t.rules[entry.2]?.getD .empty)) name := by
    intro index hindex name
    induction index with
    | nil => rfl
    | cons entry index ih =>
      obtain ⟨key, number⟩ := entry
      rw [List.forall_mem_cons] at hindex
      rw [List.map_cons, Index.find?_cons, Index.find?_cons]
      by_cases hname : name = key
      · rw [if_pos hname, if_pos hname, Option.bind_some, List.getElem?_eq_getElem hindex.1]
        rfl
      · rw [if_neg hname, if_neg hname, ih hindex.2]
  exact hfind t.triggers (fun entry hentry => (h.triggers entry hentry).2) (lowercase trigger)

theorem names_bindings (t : RuleTable) : Index.names t.bindings = t.triggers.names := by
  rw [bindings, Index.names, List.map_map]
  rfl

/-- A plain table is told by its triggers and their names. -/
theorem Plain.eq_of_shownBindings_eq (h : t.Plain) (h' : t'.Plain)
    (hshown : t.shownBindings = t'.shownBindings) :
    t.triggers.names = t'.triggers.names ∧
      ∀ trigger, t.dependents? trigger = t'.dependents? trigger := by
  have hbindings : t.bindings = t'.bindings := by rw [h.bindings_eq, hshown, ← h'.bindings_eq]
  refine ⟨?_, fun trigger => ?_⟩
  · rw [← names_bindings, hbindings, names_bindings]
  · rw [h.dependents?_eq, hbindings, ← h'.dependents?_eq]

end RuleTable

/-! ### What the objects tell -/

namespace Json

variable {α : Type}

/-- A list tells its items, if each value tells what it stands for. -/
theorem list_inj {f : α → Json} (hf : Function.Injective fun a => (f a).shown) {xs ys : List α}
    (h : (list (xs.map f)).shown = (list (ys.map f)).shown) : xs = ys := by
  rw [shown, shown, shownItems_eq_map, shownItems_eq_map, List.map_map, List.map_map] at h
  exact List.map_injective_iff.mpr hf (Shown.list.inj h)

/-- An object tells its fields, if each field tells what it stands for. -/
theorem object_inj {f : α → Text × Json} (hf : Function.Injective fun a => shownField (f a))
    {xs ys : List α} (h : (object (xs.map f)).shown = (object (ys.map f)).shown) : xs = ys := by
  rw [shown, shown, shownFields_eq_map, shownFields_eq_map, List.map_map, List.map_map] at h
  exact List.map_injective_iff.mpr hf (Shown.object.inj h)

theorem texts_inj {ts us : List Text}
    (h : (list (ts.map .text)).shown = (list (us.map .text)).shown) : ts = us := by
  have htext : Function.Injective fun t => (text t).shown := fun _ _ h => Shown.text.inj h
  exact list_inj htext h

end Json

theorem Registry.names_eq_of_toJson {r r' : Registry} (h : r.toJson.shown = r'.toJson.shown) :
    r.names = r'.names := by
  rw [toJson, toJson, Json.shown, Json.shown, shownFields_eq_map, shownFields_eq_map] at h
  have hnames := congrArg (List.map Prod.fst) (Shown.object.inj h)
  rw [List.map_map, List.map_map, List.map_map, List.map_map] at hnames
  exact hnames

theorem RuleTable.shownBindings_eq_of_toJson {t t' : RuleTable}
    (h : t.toJson.shown = t'.toJson.shown) : t.shownBindings = t'.shownBindings := by
  have htoJson : ∀ t : RuleTable, t.toJson =
      .object (t.shownBindings.map fun shown => (shown.1, .list (shown.2.map .text))) := by
    intro t
    rw [shownBindings, List.map_map]
    rfl
  rw [htoJson, htoJson] at h
  refine object_inj (fun a b hab => ?_) h
  obtain ⟨htrigger, hnames⟩ := Prod.mk.inj hab
  exact Prod.ext htrigger (texts_inj hnames)

theorem Interval.toJson_inj {i j : Interval} (h : i.toJson.shown = j.toJson.shown) : i = j := by
  simp only [toJson, Json.shown, shownFields, Shown.object.injEq, List.cons.injEq, Prod.mk.injEq,
    true_and, and_true, Shown.bare.injEq, Numeral.write_injective.eq_iff] at h
  rw [← i.ofParts_seconds_nanoseconds, h.1, h.2, j.ofParts_seconds_nanoseconds]

theorem Answer.toJson_inj {a b : Answer} (h : a.toJson.shown = b.toJson.shown) : a = b := by
  simp only [toJson, Json.shown, shownFields, Shown.object.injEq, List.cons.injEq, Prod.mk.injEq,
    true_and, and_true, Shown.text.injEq] at h
  obtain ⟨name, tag⟩ := a
  obtain ⟨rfl, rfl⟩ := h
  rfl

theorem Safety.word_injective : Function.Injective word := by
  intro a b
  cases a <;> cases b <;> decide

theorem Quality.word_injective : Function.Injective word := by
  intro a b
  cases a <;> cases b <;> decide

theorem Question.toJson_inj {q q' : Question} (h : q.toJson.shown = q'.toJson.shown) : q = q' := by
  cases q <;> cases q' <;>
    simp only [toJson, Json.shown, shownFields, Shown.object.injEq, List.cons.injEq, Prod.mk.injEq,
      true_and, and_true, and_false, reduceCtorEq, Shown.text.injEq] at h
  · rw [Prompt.word_injective h.1, h.2]
  · obtain ⟨hkind, rfl, hoptions⟩ := h
    rw [Choice.word_injective hkind, list_inj (fun _ _ => Answer.toJson_inj) hoptions]

/-- **What the object of a configuration tells:** every field but the colors, registries and
rules by their names. -/
theorem Config.toJson_inj {c c' : Config} (h : c.toJson.shown = c'.toJson.shown) :
    (∀ s, s ≠ .backgroundColorOne → s ≠ .backgroundColorTwo →
        c.settings.get s = c'.settings.get s) ∧
      (∀ list, (c.tags.of list).names = (c'.tags.of list).names) ∧
      c.rules.shownBindings = c'.rules.shownBindings ∧ c.questions = c'.questions := by
  simp only [toJson, Json.shown, shownFields, Shown.object.injEq, List.cons.injEq, Prod.mk.injEq,
    true_and, and_true, Shown.text.injEq, Shown.bare.injEq] at h
  obtain ⟨hsource, hnameless, hsourceless, htagless, hrules, hsafety, hfiles, hinterval, hbuffer,
    -, -, hwidth, hkeybinds, hquestions, hquality⟩ := h
  refine ⟨fun s hone htwo => ?_, fun list => ?_, RuleTable.shownBindings_eq_of_toJson hrules,
    list_inj (fun _ _ => Question.toJson_inj) hquestions⟩
  · cases s with
    | defaultSource => exact hsource
    | defaultSafety => exact Safety.word_injective hsafety
    | maxOpenFiles => exact Numeral.write_injective hfiles
    | updateInterval => exact Interval.toJson_inj hinterval
    | maxImageBufsize => exact Numeral.write_injective hbuffer
    | backgroundColorOne => exact absurd rfl hone
    | backgroundColorTwo => exact absurd rfl htwo
    | backgroundSquareWidth => exact Numeral.write_injective hwidth
    | keybind => exact texts_inj hkeybinds
    | defaultImageQuality => exact Quality.word_injective hquality
  · cases list with
    | nameless => exact Registry.names_eq_of_toJson hnameless
    | sourceless => exact Registry.names_eq_of_toJson hsourceless
    | tagless => exact Registry.names_eq_of_toJson htagless

/-- A dump tells what the object of the configuration shows. -/
theorem Config.shown_eq_of_dump_eq {c c' : Config} (h : c.dump = c'.dump) :
    c.toJson.shown = c'.toJson.shown := by
  have hend : Ends ['\n'] := ends_cons (Or.inr rfl) []
  exact (pretty_append_inj hend hend h).1

/-! ### Compiled configurations -/

/-- A configuration that is compiled comes from a sound draft. -/
theorem exists_sound_of_compile {source : Text} {c : Config} (h : compile source = .ok c) :
    ∃ d : Draft, d.Sound ∧ d.config = c := by
  obtain ⟨_, d, -, -, hsound, hconfig⟩ := Draft.exists_draft_of_compile h
  exact ⟨d, hsound, hconfig⟩

/-- **Templates with one dump define the same,** colors aside: their settings, default tags and
questions are equal, and they have the same triggers, each with an equal registry.  Only which
triggers share a registry is not told. -/
theorem Command.dump_tells_config {source source' : Text} {c c' : Config}
    (h : compile source = .ok c) (h' : compile source' = .ok c')
    (hdump : dump.run source = dump.run source') :
    (∀ s, s ≠ .backgroundColorOne → s ≠ .backgroundColorTwo →
        c.settings.get s = c'.settings.get s) ∧
      c.tags = c'.tags ∧ c.questions = c'.questions ∧
      c.rules.triggers.names = c'.rules.triggers.names ∧
      ∀ trigger, c.rules.dependents? trigger = c'.rules.dependents? trigger := by
  obtain ⟨d, hsound, rfl⟩ := exists_sound_of_compile h
  obtain ⟨d', hsound', rfl⟩ := exists_sound_of_compile h'
  rw [run, run, h, h'] at hdump
  obtain ⟨hsettings, hnames, hrules, hquestions⟩ :=
    Config.toJson_inj (Config.shown_eq_of_dump_eq (Except.ok.inj hdump))
  have htags : ∀ list, d.tags.of list = d'.tags.of list := fun list =>
    (hsound.tags list).eq_of_names_eq (hsound'.tags list) (hnames list)
  refine ⟨hsettings, ?_, hquestions,
    hsound.outline.rules.eq_of_shownBindings_eq hsound'.outline.rules hrules⟩
  exact DefaultTags.ext_of htags

/-- One rule for two triggers and two rules with equal dependents are dumped alike. -/
theorem Command.dump_tells_config_unshared :
    let source := "ALIAS_TAG_FROM:\"a b\"ALIAS_TAG_TO:\"x\"".toList
    let source' := "ALIAS_TAG_FROM:\"a\"ALIAS_TAG_TO:\"x\"".toList ++
      "ALIAS_TAG_FROM:\"b\"ALIAS_TAG_TO:\"x\"".toList
    ∃ c c', compile source = .ok c ∧ compile source' = .ok c' ∧
      dump.run source = dump.run source' ∧ c.rules.sharesRule ['a'] ['b'] = true ∧
      c'.rules.sharesRule ['a'] ['b'] = false ∧
      ∀ trigger, c.rules.dependents? trigger = c'.rules.dependents? trigger := by
  intro source source'
  let blocks : List Block :=
    [.compact (.outline .aliasFrom) ['a', ' ', 'b'] (by decide),
      .compact (.outline .aliasTo) ['x'] (by decide)]
  let blocks' : List Block :=
    [.compact (.outline .aliasFrom) ['a'] (by decide),
      .compact (.outline .aliasTo) ['x'] (by decide),
      .compact (.outline .aliasFrom) ['b'] (by decide),
      .compact (.outline .aliasTo) ['x'] (by decide)]
  let c : Config := ⟨.initial, .empty, RuleTable.empty.addRule ['a', ' ', 'b'] ['x'], []⟩
  let c' : Config :=
    ⟨.initial, .empty, (RuleTable.empty.addRule ['a'] ['x']).addRule ['b'] ['x'], []⟩
  have hcompile : compile source = .ok c := by
    have hsource : source = blocks.flatMap Block.written := by decide +kernel
    rw [hsource]
    refine (compileWith_eq_ok_iff (tokenize_blocks blocks)).mpr ⟨?_, ?_⟩
    · exact ⟨.initial, .empty, .settled, [], c.rules⟩
    · exact ⟨rfl, rfl⟩
  have hcompile' : compile source' = .ok c' := by
    have hsource : source' = blocks'.flatMap Block.written := by decide +kernel
    rw [hsource]
    refine (compileWith_eq_ok_iff (tokenize_blocks blocks')).mpr ⟨?_, ?_⟩
    · exact ⟨.initial, .empty, .settled, [], c'.rules⟩
    · exact ⟨rfl, rfl⟩
  have hbindings : c.rules.bindings = c'.rules.bindings := by decide +kernel
  have hdump : dump.run source = dump.run source' := by
    rw [run, run, hcompile, hcompile']
    -- the colors are the same too, so the objects are, and need not be written out
    have hjson : c.toJson = c'.toJson := by
      unfold Config.toJson
      rw [RuleTable.toJson, RuleTable.toJson, hbindings]
    exact congrArg Except.ok (congrArg (fun json => json.pretty ++ ['\n']) hjson)
  obtain ⟨-, -, -, -, hdependents⟩ := dump_tells_config hcompile hcompile' hdump
  exact ⟨c, c', hcompile, hcompile', hdump, by decide +kernel, by decide +kernel, hdependents⟩

end Questionnaire
