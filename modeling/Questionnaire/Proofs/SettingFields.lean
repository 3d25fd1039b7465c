import Mathlib.Data.List.Induction
import Questionnaire.Proofs.Compile

/-!
# Settings as independent fields

A key of a setting names a field of the settings.  A value given for it is read without
a look at the settings, and only changes that field.  So a run over values of many
settings is a run for each setting of its own, on the values of that setting alone.

## Main definitions

* `Setting.Value`, `Settings.get`, `Settings.put` — what a setting holds, and its field.
* `Setting.read` — what a value stands for.
* `Setting.absorb` — a new value takes the place of the old one, a keybind is added.
* `valuesUnder` — the values of one key in a sequence of keys and values.
* `Setting.gather` — one setting after a sequence of its own values.
* `Setting.HoldsLast` — what a setting holds after values of which the last counts.

## Main results

* `Settings.set_eq` — setting is reading, and changing one field.
* `Settings.setAll_eq_ok_iff` — **the run of each setting does not see the others.**
* `Setting.holdsLast_of_gather`, `Setting.gather_keybind` — where such a run ends.
-/

namespace Questionnaire

open Text

/-! ### Fields -/

namespace Setting

/-- What a setting holds. -/
def Value : Setting → Type
  | .defaultSource => Text
  | .defaultSafety => Safety
  | .maxOpenFiles => Nat
  | .updateInterval => Interval
  | .maxImageBufsize => Nat
  | .backgroundColorOne => Color
  | .backgroundColorTwo => Color
  | .backgroundSquareWidth => Nat
  | .keybind => List Text
  | .defaultImageQuality => Quality

/-- What a value stands for, or why it does not fit. -/
def read : (s : Setting) → Text → Except SettingFault s.Value
  | .defaultSource, value => .ok value
  | .defaultSafety, value => Settings.orFault (.safety (trim value)) (Safety.read? (trim value))
  | .maxOpenFiles, value => Settings.readNumber Settings.greatestOpenFiles value
  | .updateInterval, value => Settings.orFault (.seconds (trim value)) (Interval.read? value)
  | .maxImageBufsize, value => (Size.read value).mapError .size
  | .backgroundColorOne, value => Settings.readColor value
  | .backgroundColorTwo, value => Settings.readColor value
  | .backgroundSquareWidth, value => Settings.readWidth value
  | .keybind, value => .ok [value]
  | .defaultImageQuality, value =>
    Settings.orFault (.quality (trim value)) (Quality.read? (trim value))

/-- What a setting holds when something more is given for it: the keybinds are kept, and
everything else is replaced. -/
def absorb : (s : Setting) → s.Value → s.Value → s.Value
  | .keybind, old, new => List.append old new
  | _, _, new => new

theorem absorb_of_ne {s : Setting} (h : s ≠ .keybind) (old new : s.Value) :
    s.absorb old new = new := by
  cases s <;> first | rfl | exact absurd rfl h

end Setting

namespace Settings

/-- The field of a setting. -/
def get (d : Settings) : (s : Setting) → s.Value
  | .defaultSource => d.defaultSource
  | .defaultSafety => d.defaultSafety
  | .maxOpenFiles => d.maxOpenFiles
  | .updateInterval => d.updateInterval
  | .maxImageBufsize => d.maxImageBuffer
  | .backgroundColorOne => d.backgroundOne
  | .backgroundColorTwo => d.backgroundTwo
  | .backgroundSquareWidth => d.squareWidth
  | .keybind => d.keybinds
  | .defaultImageQuality => d.defaultQuality

/-- The settings with one field changed. -/
def put (d : Settings) : (s : Setting) → s.Value → Settings
  | .defaultSource, a => { d with defaultSource := a }
  | .defaultSafety, a => { d with defaultSafety := a }
  | .maxOpenFiles, a => { d with maxOpenFiles := a }
  | .updateInterval, a => { d with updateInterval := a }
  | .maxImageBufsize, a => { d with maxImageBuffer := a }
  | .backgroundColorOne, a => { d with backgroundOne := a }
  | .backgroundColorTwo, a => { d with backgroundTwo := a }
  | .backgroundSquareWidth, a => { d with squareWidth := a }
  | .keybind, a => { d with keybinds := a }
  | .defaultImageQuality, a => { d with defaultQuality := a }

@[simp] theorem get_put_self (d : Settings) (s : Setting) (a : s.Value) :
    (d.put s a).get s = a := by
  cases s <;> rfl

theorem get_put_of_ne {s s' : Setting} (h : s' ≠ s) (d : Settings) (a : s.Value) :
    (d.put s a).get s' = d.get s' := by
  cases s <;> cases s' <;> first | rfl | exact absurd rfl h

/-- There is no more to settings than their fields. -/
theorem ext_get {d d' : Settings} (h : ∀ s, d.get s = d'.get s) : d = d' := by
  obtain ⟨_, _, _, _, _, _, _, _, _, _⟩ := d
  obtain ⟨_, _, _, _, _, _, _, _, _, _⟩ := d'
  rw [mk.injEq]
  exact ⟨h .defaultSource, h .defaultSafety, h .maxOpenFiles, h .updateInterval,
    h .maxImageBufsize, h .backgroundColorOne, h .backgroundColorTwo, h .backgroundSquareWidth,
    h .defaultImageQuality, h .keybind⟩

/-- **Setting is reading,** and working what was read into one field. -/
theorem set_eq (d : Settings) (s : Setting) (value : Text) :
    d.set s value = (s.read value).map fun a => d.put s (s.absorb (d.get s) a) := by
  cases s with
  | defaultSource => rfl
  | keybind => rfl
  | defaultSafety => exact Except.bind_pure_eq_map
  | maxOpenFiles => exact Except.bind_pure_eq_map
  | updateInterval => exact Except.bind_pure_eq_map
  | maxImageBufsize => exact Except.bind_pure_eq_map
  | backgroundColorOne => exact Except.bind_pure_eq_map
  | backgroundColorTwo => exact Except.bind_pure_eq_map
  | backgroundSquareWidth => exact Except.bind_pure_eq_map
  | defaultImageQuality => exact Except.bind_pure_eq_map

theorem set_eq_ok_iff {d d' : Settings} {s : Setting} {value : Text} :
    d.set s value = .ok d' ↔
      ∃ a, s.read value = .ok a ∧ d' = d.put s (s.absorb (d.get s) a) := by
  rw [set_eq, ← Except.bind_pure_eq_map, Except.bind_pure_eq_ok]

end Settings

/-! ### Runs -/

/-- The values of the entries of a key, in order. -/
def valuesUnder {κ : Type} [DecidableEq κ] (key : κ) (entries : List (κ × Text)) : List Text :=
  entries.filterMap fun entry => if entry.1 = key then some entry.2 else none

section

variable {κ : Type} [DecidableEq κ] {key other : κ}

theorem valuesUnder_cons_self (key : κ) (value : Text) (entries : List (κ × Text)) :
    valuesUnder key ((key, value) :: entries) = value :: valuesUnder key entries :=
  List.filterMap_cons_some (if_pos rfl)

theorem valuesUnder_cons_of_ne (h : other ≠ key) (value : Text) (entries : List (κ × Text)) :
    valuesUnder other ((key, value) :: entries) = valuesUnder other entries :=
  List.filterMap_cons_none (if_neg h.symm)

end

namespace Setting

/-- What a setting holds after further values of its own, up to the first that does not
fit. -/
def gather (s : Setting) (values : List Text) (a : s.Value) : Except SettingFault s.Value :=
  values.foldlM (fun a value => (s.read value).map (s.absorb a)) a

variable {s : Setting}

theorem gather_cons_eq_ok {value : Text} {values : List Text} {a b : s.Value} :
    s.gather (value :: values) a = .ok b ↔
      ∃ c, s.read value = .ok c ∧ s.gather values (s.absorb a c) = .ok b := by
  unfold gather
  rw [Except.foldlM_cons_eq_ok]
  constructor
  · rintro ⟨m, hm, hrest⟩
    obtain ⟨c, hc, rfl⟩ := Except.map_eq_ok.mp hm
    exact ⟨c, hc, hrest⟩
  · rintro ⟨c, hc, hrest⟩
    exact ⟨_, Except.map_eq_ok.mpr ⟨c, hc, rfl⟩, hrest⟩

/-- A setting holds what the last of its values stands for, and what it held before if no
value is given for it. -/
def HoldsLast (s : Setting) (values : List Text) (before after : s.Value) : Prop :=
  match values.getLast? with
  | none => after = before
  | some value => s.read value = .ok after

theorem holdsLast_of_gather (hs : s ≠ .keybind) {values : List Text} {a b : s.Value}
    (h : s.gather values a = .ok b) : s.HoldsLast values a b := by
  induction values using List.reverseRecOn with
  | nil => exact (Except.ok.inj h).symm
  | append_singleton values value ih =>
    unfold gather at h
    obtain ⟨m, -, hlast⟩ := Except.foldlM_append_eq_ok.mp h
    obtain ⟨c, hc, hrest⟩ := gather_cons_eq_ok.mp hlast
    rw [absorb_of_ne hs] at hrest
    rw [HoldsLast, List.getLast?_concat]
    exact hc.trans hrest

/-- Every keybind is kept. -/
theorem gather_keybind (values : List Text) (a : List Text) :
    gather keybind values a = .ok (List.append a values) := by
  induction values generalizing a with
  | nil => exact congrArg Except.ok (List.append_nil a).symm
  | cons value values ih =>
    have hstep : gather keybind (value :: values) a = gather keybind values (a ++ [value]) := rfl
    rw [hstep, ih]
    exact congrArg Except.ok (List.append_assoc a [value] values)

end Setting

/-- **The run of each setting does not see the others:** the settings take a sequence of
values if and only if each of them takes its own. -/
theorem Settings.setAll_eq_ok_iff {entries : List (Setting × Text)} {d d' : Settings} :
    setAll entries d = .ok d' ↔
      ∀ s : Setting, s.gather (valuesUnder s entries) (d.get s) = .ok (d'.get s) := by
  induction entries generalizing d with
  | nil =>
    constructor
    · rintro ⟨⟩ s
      rfl
    · intro h
      exact congrArg Except.ok (ext_get fun s => Except.ok.inj (h s))
  | cons entry entries ih =>
    obtain ⟨s, value⟩ := entry
    rw [setAll, Except.foldlM_cons_eq_ok]
    constructor
    · rintro ⟨m, hm, hrest⟩ s'
      obtain ⟨a, ha, rfl⟩ := set_eq_ok_iff.mp hm
      have hfield := ih.mp hrest s'
      by_cases hs : s' = s
      · subst hs
        rw [get_put_self] at hfield
        rw [valuesUnder_cons_self]
        exact Setting.gather_cons_eq_ok.mpr ⟨a, ha, hfield⟩
      · rw [valuesUnder_cons_of_ne hs, ← get_put_of_ne hs]
        exact hfield
    · intro h
      have hfirst := h s
      rw [valuesUnder_cons_self] at hfirst
      obtain ⟨a, ha, hrest⟩ := Setting.gather_cons_eq_ok.mp hfirst
      refine ⟨_, set_eq_ok_iff.mpr ⟨a, ha, rfl⟩, ih.mpr fun s' => ?_⟩
      by_cases hs : s' = s
      · subst hs
        rw [get_put_self]
        exact hrest
      · rw [get_put_of_ne hs, ← valuesUnder_cons_of_ne hs value]
        exact h s'

end Questionnaire
