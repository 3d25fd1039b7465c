import Questionnaire.Proofs.RegistryRuns

/-!
# Registries as finite maps

A registry stands for a finite map from lowercase names to strengths, seen as
natural numbers.  What is done to the registry is done to the map, one name at a
time or one map to another; the order of the listing no longer shows, and the
width of a strength shows only where a sum stops.

## Main definitions

* `Change.onNat` — a change of a strength as arithmetic.
* `StrengthMap`, `StrengthMap.touch`, `StrengthMap.combine` — maps, and what is done to them.
* `Registry.strengths` — the map that a registry stands for.
* `Registry.Mutation.onMap` — what a mutation does to the map.

## Main results

* `Registry.Canonical.ext` — a registry is what it stands for.
* `Registry.Canonical.strengths_touch` — one touch.
* `Registry.Canonical.touchEach_perm` — the order of one change to many names.
* `Registry.Canonical.strengths_apply` — one mutation.
* `Registry.Reachable.strengths_run`, `Registry.Reachable.mem_registered_run` — a run.
* `Registry.refines_strengthMap` — **registries are finite maps under every run.**
-/

namespace Questionnaire

open Text

/-! ### Strengths as numbers -/

namespace Change

/-- The strength after a change, as arithmetic. -/
def onNat : Change → Nat → Nat
  | .keep, s => s
  | .raise v, s => max s v.toNat
  | .add v, s => min (s + v.toNat) 0xffffffff
  | .lower v, s => if v.toNat ≤ s then s - v.toNat else s
  | .clear v, s => if s ≤ v.toNat then 0 else s

theorem toNat_apply (change : Change) (s : Strength) :
    (change.apply s).toNat = change.onNat s.toNat := by
  cases change with
  | keep => rfl
  | raise v => exact toNat_apply_raise v s
  | add v => exact toNat_apply_add v s
  | lower v => exact toNat_apply_lower v s
  | clear v => exact toNat_apply_clear v s

end Change

/-! ### Maps -/

/-- The strength under each name, none where the name is not registered. -/
abbrev StrengthMap := Text → Option Nat

namespace StrengthMap

/-- The map without names. -/
def empty : StrengthMap := fun _ => none

/-- The map with one strength changed.  The name counts in lowercase, and is put in at
strength zero if it was not there; the empty name is no name. -/
def touch (change : Change) (name : Text) (m : StrengthMap) : StrengthMap := fun key =>
  if name ≠ [] ∧ key = lowercase name then some (change.onNat ((m key).getD 0)) else m key

/-- Two touches that make one change may change places. -/
theorem touch_comm (change : Change) (a b : Text) (m : StrengthMap) :
    (m.touch change a).touch change b = (m.touch change b).touch change a := by
  funext key
  unfold touch
  by_cases ha : a ≠ [] ∧ key = lowercase a
  · by_cases hb : b ≠ [] ∧ key = lowercase b
    · simp only [if_pos ha, if_pos hb]
    · simp only [if_pos ha, if_neg hb]
  · simp only [if_neg ha]

/-- The map with every strength of another worked into the strength of its name. -/
def combine (m : StrengthMap) (f : Nat → Nat → Nat) (other : StrengthMap) : StrengthMap :=
  fun key =>
    match other key with
    | none => m key
    | some v => some (f v ((m key).getD 0))

end StrengthMap

namespace Registry

/-- The map that a registry stands for. -/
def strengths (r : Registry) : StrengthMap := fun key =>
  (r.tags.find? key).map (·.strength.toNat)

/-- The map has the strengths of the listing. -/
theorem Canonical.strengths_eq_some_iff {r : Registry} (h : r.Canonical) (key : Text) (n : Nat) :
    r.strengths key = some n ↔ ∃ tag ∈ r.listing, tag.name = key ∧ tag.strength.toNat = n := by
  rw [strengths, Option.map_eq_some_iff]
  constructor
  · rintro ⟨tag, hfind, rfl⟩
    have hmem := Index.mem_of_find? hfind
    exact ⟨tag, List.mem_map.mpr ⟨_, hmem, rfl⟩, h.name_eq _ hmem, rfl⟩
  · rintro ⟨_, hmem, rfl, rfl⟩
    obtain ⟨⟨key, tag⟩, hentry, rfl⟩ := List.mem_map.mp hmem
    have hname : tag.name = key := h.name_eq _ hentry
    exact ⟨tag, h.ascending.find?_eq_some_iff.mpr (hname ▸ hentry), rfl⟩

/-- Canonical registries that stand for one map are the same. -/
theorem Canonical.ext {r r' : Registry} (h : r.Canonical) (h' : r'.Canonical)
    (hstrengths : r.strengths = r'.strengths) : r = r' := by
  have hfind : ∀ name, r.tags.find? name = r'.tags.find? name := by
    intro name
    have hname : (r.tags.find? name).map (·.strength.toNat) =
        (r'.tags.find? name).map (·.strength.toNat) := congrFun hstrengths name
    cases hr : r.tags.find? name with
    | none =>
      rw [hr, Option.map_none, eq_comm, Option.map_eq_none_iff] at hname
      exact hname.symm
    | some tag =>
      rw [hr, Option.map_some, eq_comm, Option.map_eq_some_iff] at hname
      obtain ⟨tag', hr', hstrength⟩ := hname
      -- both stand under the one name, so only their strengths could differ
      have hkey : tag.name = name := h.name_eq _ (Index.mem_of_find? hr)
      have hkey' : tag'.name = name := h'.name_eq _ (Index.mem_of_find? hr')
      have htag : tag = tag' := by
        obtain ⟨n, s⟩ := tag
        obtain ⟨n', s'⟩ := tag'
        rw [Tag.mk.injEq]
        exact ⟨hkey.trans hkey'.symm, (UInt32.toNat_inj.mp hstrength).symm⟩
      rw [hr', htag]
  have htags : r.tags = r'.tags := h.ascending.ext h'.ascending hfind
  obtain ⟨tags⟩ := r
  obtain ⟨tags'⟩ := r'
  exact congrArg Registry.mk htags

/-! ### Touches -/

theorem toNat_strength_touched (change : Change) (name : Text) (tag? : Option Tag) :
    (touched change name tag?).strength.toNat =
      change.onNat ((tag?.map (·.strength.toNat)).getD 0) := by
  rw [touched, Change.toNat_apply]
  cases tag? <;> rfl

theorem Canonical.strengths_touch {r : Registry} (h : r.Canonical) (change : Change)
    (name : Text) : (r.touch change name).strengths = r.strengths.touch change name := by
  funext key
  by_cases hname : name = []
  · simp [hname, StrengthMap.touch]
  · rw [strengths, h.find?_touch change hname, StrengthMap.touch]
    by_cases hkey : key = lowercase name
    · rw [if_pos hkey, if_pos ⟨hname, hkey⟩, Option.map_some, toNat_strength_touched, hkey]
      rfl
    · rw [if_neg hkey, if_neg fun hand => hkey hand.2]
      rfl

/-- Touches do the same to the map, one after the other. -/
theorem Canonical.strengths_touchAll {r : Registry} (h : r.Canonical)
    (touches : List (Change × Text)) : (r.touchAll touches).strengths =
      touches.foldl (fun m touch => m.touch touch.1 touch.2) r.strengths := by
  induction touches generalizing r with
  | nil => rfl
  | cons touch touches ih =>
    rw [touchAll_cons, ih (h.touch touch.1 touch.2), h.strengths_touch, List.foldl_cons]

theorem touchEach_eq_touchAll (change : Change) (names : List Text) (r : Registry) :
    r.touchEach change names = r.touchAll (names.map (change, ·)) := by
  rw [touchEach, touchAll, List.foldl_map]

/-- The names of a list may be touched in any order. -/
theorem Canonical.touchEach_perm {r : Registry} (h : r.Canonical) (change : Change)
    {names names' : List Text} (hperm : names.Perm names') :
    r.touchEach change names = r.touchEach change names' := by
  rw [touchEach_eq_touchAll, touchEach_eq_touchAll]
  refine (h.touchAll _).ext (h.touchAll _) ?_
  rw [h.strengths_touchAll, h.strengths_touchAll, List.foldl_map, List.foldl_map]
  exact hperm.foldl_eq' (fun a _ b _ m => m.touch_comm change a b) _

/-- The entry of a name is changed by the touches of that name only. -/
theorem find?_touchAll_of_ne {touches : List (Change × Text)} {key : Text} {r : Registry}
    (h : ∀ name ∈ touches.map (·.2), key ≠ lowercase name) :
    (r.touchAll touches).tags.find? key = r.tags.find? key := by
  induction touches generalizing r with
  | nil => rfl
  | cons touch touches ih =>
    rw [List.map_cons, List.forall_mem_cons] at h
    rw [touchAll_cons, ih h.2]
    by_cases hname : touch.2 = []
    · rw [hname, touch_nil]
    · rw [touch_of_ne_nil hname]
      exact Index.find?_alter_of_ne h.1 _ _

/-! ### Other registries -/

theorem Canonical.tail {entry : Text × Tag} {rest : Index Tag}
    (h : Canonical ⟨entry :: rest⟩) : Canonical ⟨rest⟩ :=
  ⟨(Index.ascending_cons.mp h.ascending).2,
    fun e he => h.name_eq e (List.mem_cons_of_mem _ he),
    fun e he => h.ne_nil e (List.mem_cons_of_mem _ he),
    fun e he => h.lowercase_eq e (List.mem_cons_of_mem _ he)⟩

/-- Touching the tags of a registry one after the other works its map into the other map:
each name comes once, so no touch sees what another has done. -/
theorem Canonical.foldl_touch_listing {other : Registry} (h : other.Canonical)
    (change : Strength → Change) (f : Nat → Nat → Nat)
    (hf : ∀ v s, (change v).onNat s = f v.toNat s) (m : StrengthMap) :
    other.listing.foldl (fun m tag => m.touch (change tag.strength) tag.name) m =
      m.combine f other.strengths := by
  obtain ⟨tags⟩ := other
  -- the first tag is worked in, and then the rest into what it has made of the map
  induction tags generalizing m with
  | nil => rfl
  | cons entry rest ih =>
    obtain ⟨name, tag⟩ := entry
    have htag : tag.name = name := h.name_eq _ List.mem_cons_self
    have hname : name ≠ [] := h.ne_nil _ List.mem_cons_self
    have hlower : lowercase name = name := h.lowercase_eq _ List.mem_cons_self
    have hfirst := (Index.ascending_cons.mp h.ascending).1
    rw [listing, List.map_cons, List.foldl_cons]
    refine (ih _ h.tail).trans ?_
    funext key
    unfold StrengthMap.combine strengths
    rw [Index.find?_cons]
    by_cases hkey : key = name
    · -- the name does not come again
      have hnone : Index.find? rest name = none :=
        Index.find?_eq_none_iff.mpr fun hmem => (hfirst name hmem).false
      rw [hkey, if_pos rfl, hnone, StrengthMap.touch, htag,
        if_pos ⟨hname, hlower.symm⟩, hf]
      rfl
    · have hold : m.touch (change tag.strength) tag.name key = m key := by
        rw [StrengthMap.touch, htag, hlower, if_neg fun hand => hkey hand.2]
      rw [if_neg hkey, hold]

/-! ### Mutations -/

/-- What a building does: every entry raises the strength of its name. -/
def Construction.strengths (c : Construction) : StrengthMap :=
  c.raised.foldl (fun m entry => m.touch (.raise entry.2) entry.1) .empty

/-- What a mutation does to the map. -/
def Mutation.onMap : Mutation → StrengthMap → StrengthMap
  | .register name, m => m.touch .keep name
  | .occurrencesOf name, m => m.touch .keep name
  | .touch change name, m => m.touch change name
  | .touchWords change list, m => (words list).foldl (fun m word => m.touch change word) m
  | .merge other, m => m.combine (fun v s => max s v) other.strengths
  | .withdraw other, m => m.combine (fun v s => if s ≤ v then 0 else s) other.strengths

theorem Construction.strengths_eq {c : Construction} {r : Registry} (h : c.build? = some r) :
    r.strengths = c.strengths := by
  rw [c.eq_touchAll_of_build? h, canonical_empty.strengths_touchAll, List.foldl_map]
  rfl

/-- A mutation does the same to the map. -/
theorem Canonical.strengths_apply {r : Registry} (h : r.Canonical) {m : Mutation}
    (hother : ∀ other ∈ m.other?, other.Canonical) :
    (m.apply r).strengths = m.onMap r.strengths := by
  rw [m.apply_eq_touchAll, h.strengths_touchAll]
  cases m with
  | register name => rfl
  | occurrencesOf name => rfl
  | touch change name => rfl
  | touchWords change list => exact List.foldl_map
  | merge other =>
    rw [Mutation.touches, List.foldl_map]
    exact (hother other rfl).foldl_touch_listing .raise (fun v s => max s v) (fun _ _ => rfl) _
  | withdraw other =>
    rw [Mutation.touches, List.foldl_map]
    exact (hother other rfl).foldl_touch_listing .clear (fun v s => if s ≤ v then 0 else s)
      (fun _ _ => rfl) _

/-! ### Runs -/

/-- The registry after mutations, one after the other. -/
def run (ms : List Mutation) (r : Registry) : Registry := ms.foldl (fun r m => m.apply r) r

theorem Reachable.run {r : Registry} (h : r.Reachable) {ms : List Mutation}
    (hms : ∀ m ∈ ms, ∀ other ∈ m.other?, Reachable other) : (r.run ms).Reachable := by
  induction ms generalizing r with
  | nil => exact h
  | cons m ms ih =>
    rw [List.forall_mem_cons] at hms
    exact ih (.mutate m h hms.1) hms.2

theorem mem_registered_apply {r : Registry} (h : r.Canonical) (m : Mutation) (key : Text) :
    key ∈ (m.apply r).registered ↔
      key ∈ r.registered ∨ ∃ name ∈ m.given, name ≠ [] ∧ key = lowercase name := by
  rw [m.apply_eq_touchAll, (h.touchAll _).registered_eq, h.registered_eq, mem_names_touchAll,
    m.map_snd_touches]

theorem Reachable.strengths_run {r : Registry} (h : r.Reachable) {ms : List Mutation}
    (hms : ∀ m ∈ ms, ∀ other ∈ m.other?, Reachable other) :
    (r.run ms).strengths = ms.foldl (fun s m => m.onMap s) r.strengths := by
  induction ms generalizing r with
  | nil => rfl
  | cons m ms ih =>
    rw [List.forall_mem_cons] at hms
    have hstep := h.canonical.strengths_apply fun other hother => (hms.1 other hother).canonical
    rw [List.foldl_cons, ← hstep]
    exact ih (.mutate m h hms.1) hms.2

/-- A run registers what is given to it and takes nothing away. -/
theorem Reachable.mem_registered_run {r : Registry} (h : r.Reachable) {ms : List Mutation}
    (hms : ∀ m ∈ ms, ∀ other ∈ m.other?, Reachable other) (key : Text) :
    key ∈ (r.run ms).registered ↔
      key ∈ r.registered ∨ ∃ m ∈ ms, ∃ name ∈ m.given, name ≠ [] ∧ key = lowercase name := by
  induction ms generalizing r with
  | nil => simp [Registry.run]
  | cons m ms ih =>
    rw [List.forall_mem_cons] at hms
    refine (ih (.mutate m h hms.1) hms.2).trans ?_
    rw [mem_registered_apply h.canonical, or_assoc, List.exists_mem_cons_iff]

/-! ### Lookups -/

/-- Registering a name first does not change its strength. -/
theorem Canonical.strength_eq_occurrencesOf {r : Registry} (h : r.Canonical) (name : Text) :
    r.strength name = (r.occurrencesOf name).1 := by
  by_cases hname : name = []
  · rw [hname]
    rfl
  · rw [occurrencesOf, register, strength, find?, find?, if_neg (by simpa using hname),
      if_neg (by simpa using hname), h.find?_touch .keep hname, if_pos rfl]
    cases r.tags.find? (lowercase name) <;> rfl

/-- The strength of a name is that of the map under its lowercase form. -/
theorem Canonical.toNat_strength {r : Registry} (h : r.Canonical) (name : Text) :
    (r.strength name).toNat = (r.strengths (lowercase name)).getD 0 := by
  by_cases hname : name = []
  · -- the empty name is looked up nowhere and registered nowhere
    have hnone : r.tags.find? [] = none :=
      Index.find?_eq_none_iff.mpr fun hmem => by
        obtain ⟨entry, hentry, hnil⟩ := List.mem_map.mp hmem
        exact h.ne_nil entry hentry hnil
    rw [hname, strengths, lowercase_nil, hnone]
    rfl
  · rw [strength, find?, if_neg (by simpa using hname), strengths]
    cases r.tags.find? (lowercase name) <;> rfl

/-! ### The theorem -/

/-- **Registries are finite maps under every run.**  A registry that can be reached lists
its tags in ascending order under canonical names.  Building it and any run of
mutations do to its map what they say, register the lowercase forms of the non-empty
names given to them, take no name away, and leave all other entries alone.  Asking for
a strength gives what registering the name first would give. -/
theorem refines_strengthMap {r : Registry} (h : r.Reachable) :
    (r.registered.Pairwise (· < ·) ∧
      (∀ entry ∈ r.tags, entry.2.name = entry.1 ∧ entry.2.name ≠ [] ∧
        lowercase entry.2.name = entry.2.name) ∧
      ∀ key n, r.strengths key = some n ↔
        ∃ tag ∈ r.listing, tag.name = key ∧ tag.strength.toNat = n) ∧
    (∀ c : Construction, c.build? = some r →
      r.strengths = c.strengths ∧
      ∀ key, key ∈ r.registered ↔
        ∃ name ∈ c.raised.map (·.1), name ≠ [] ∧ key = lowercase name) ∧
    (∀ ms : List Mutation, (∀ m ∈ ms, ∀ other ∈ m.other?, Reachable other) →
      (r.run ms).Reachable ∧
      (r.run ms).strengths = ms.foldl (fun s m => m.onMap s) r.strengths ∧
      ∀ key, key ∈ (r.run ms).registered ↔
        key ∈ r.registered ∨ ∃ m ∈ ms, ∃ name ∈ m.given, name ≠ [] ∧ key = lowercase name) ∧
    (∀ m : Mutation,
      ((∀ name ∈ m.given, name = []) → m.apply r = r) ∧
      ∀ key, (∀ name ∈ m.given, key ≠ lowercase name) →
        (m.apply r).tags.find? key = r.tags.find? key) ∧
    ∀ name, r.strength name = (r.occurrencesOf name).1 ∧
      (r.strength name).toNat = (r.strengths (lowercase name)).getD 0 := by
  have hr := h.canonical
  refine ⟨⟨?_, ?_, hr.strengths_eq_some_iff⟩, ?_, ?_, ?_, ?_⟩
  · rw [hr.registered_eq]
    exact hr.ascending
  · intro entry hentry
    rw [hr.name_eq entry hentry]
    exact ⟨rfl, hr.ne_nil entry hentry, hr.lowercase_eq entry hentry⟩
  · intro c hc
    refine ⟨c.strengths_eq hc, fun key => ?_⟩
    rw [hr.registered_eq, c.eq_touchAll_of_build? hc, mem_names_touchAll, List.map_map]
    exact or_iff_right List.not_mem_nil
  · intro ms hms
    exact ⟨h.run hms, h.strengths_run hms, h.mem_registered_run hms⟩
  · intro m
    rw [m.apply_eq_touchAll, ← m.map_snd_touches]
    exact ⟨touchAll_of_eq_nil, fun key => find?_touchAll_of_ne⟩
  · intro name
    exact ⟨hr.strength_eq_occurrencesOf name, hr.toNat_strength name⟩

/-- A sum that stops at the greatest strength, a tag of another registry, and a name with a
final sigma. -/
theorem refines_strengthMap_words :
    let built := ofWords "ΟΔΟΣ b".toList 3
    let ms : List Mutation :=
      [.touch (.add 0xffffffff) ['B'], .merge (ofWords ['c'] 1), .touch (.lower 1) []]
    Reachable built ∧ Reachable (ofWords ['c'] 1) ∧
      built.strengths "οδος".toList = some 3 ∧
      (built.run ms).strengths ['b'] = some 0xffffffff ∧
      ['c'] ∈ (built.run ms).registered := by
  intro built ms
  have hbuilt : Reachable built := .build (.words "ΟΔΟΣ b".toList 3) rfl
  have hother : Reachable (ofWords ['c'] 1) := .build (.words ['c'] 1) rfl
  have hms : ∀ m ∈ ms, ∀ other ∈ m.other?, Reachable other := by
    intro m hm other ho
    rcases List.mem_cons.mp hm with rfl | hm
    · cases ho
    rcases List.mem_cons.mp hm with rfl | hm
    · exact Option.some.inj ho ▸ hother
    · obtain rfl := List.mem_singleton.mp hm
      cases ho
  obtain ⟨-, hwords, hrun, -⟩ := refines_strengthMap hbuilt
  obtain ⟨-, hstrengths, hregistered⟩ := hrun ms hms
  refine ⟨hbuilt, hother, ?_, ?_, ?_⟩
  · rw [(hwords (.words "ΟΔΟΣ b".toList 3) rfl).1]
    decide +kernel
  · rw [hstrengths]
    decide +kernel
  · rw [hregistered]
    exact Or.inr ⟨.merge (ofWords ['c'] 1), by simp [ms], ['c'], by decide +kernel, by simp,
      by decide +kernel⟩

end Registry

end Questionnaire
