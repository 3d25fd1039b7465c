import Mathlib.Logic.Function.Iterate
import Questionnaire.Proofs.StrengthMap

/-!
# Lists of names with repetitions

An operation on a list of names touches the words of the list one after the other.  A touch
does not see other names, so what happens to a name is one change made as many times as the
name stands in the list, case aside, and the order of the words does not matter.  A change
that is made many times has a closed form: sums stop at the greatest strength together,
raises and clears do no more than the first of them, and a value is taken away for as long
as it can be taken whole.

## Main definitions

* `Text.mentions list key` — how often a name stands in a list.
* `Change.repeated` — the strength after a change is made many times.

## Main results

* `Change.iterate_onNat` — the closed form.
* `StrengthMap.foldl_touch` — a name sees as many changes as it is given times.
* `Registry.Canonical.strengths_touchWords` — one list.
* `Registry.lists_act_by_multiplicity` — **lists act by multiplicity.**
-/

namespace Questionnaire

open Text

/-- How often a name stands in a list, counted by the lowercase forms of the words. -/
def Text.mentions (list key : Text) : Nat := ((words list).map lowercase).count key

/-! ### One change many times -/

namespace Change

/-- The strength after a change is made a number of times, once at least. -/
def repeated : Change → Nat → Nat → Nat
  | .keep, _, s => s
  | .raise v, _, s => max s v.toNat
  | .add v, k, s => min (s + k * v.toNat) 0xffffffff
  | .lower v, k, s => if v = 0 then s else s - v.toNat * min k (s / v.toNat)
  | .clear v, _, s => if s ≤ v.toNat then 0 else s

/-- A change that does nothing to what it has changed does no more than the first time. -/
theorem iterate_onNat_of_onNat_onNat {change : Change} {s : Nat}
    (h : change.onNat (change.onNat s) = change.onNat s) (k : Nat) :
    change.onNat^[k + 1] s = change.onNat s := by
  rw [Function.iterate_succ_apply]
  exact Function.iterate_fixed h k

theorem iterate_onNat_add (v : Strength) {s : Nat} (hs : s ≤ 0xffffffff) (k : Nat) :
    (onNat (.add v))^[k] s = min (s + k * v.toNat) 0xffffffff := by
  induction k with
  | zero =>
    rw [Nat.zero_mul, Nat.add_zero, Nat.min_eq_left hs]
    rfl
  | succ k ih =>
    rw [Function.iterate_succ_apply', ih, onNat, Nat.succ_mul]
    omega

/-- As long as the value can be taken whole there is one time less to take it, and then it
cannot be taken any more. -/
theorem iterate_onNat_lower {v : Strength} (hv : 0 < v.toNat) (k s : Nat) :
    (onNat (.lower v))^[k] s = s - v.toNat * min k (s / v.toNat) := by
  induction k generalizing s with
  | zero =>
    rw [Nat.zero_min, Nat.mul_zero]
    rfl
  | succ k ih =>
    rw [Function.iterate_succ_apply, ih, onNat]
    by_cases hle : v.toNat ≤ s
    · rw [if_pos hle, Nat.div_eq_sub_div hv hle, Nat.succ_min_succ, Nat.mul_succ]
      omega
    · rw [if_neg hle, Nat.div_eq_of_lt (not_le.mp hle), Nat.min_zero, Nat.min_zero]

/-- **The closed form** of a change that is made once or more. -/
theorem iterate_onNat (change : Change) {s : Nat} (hs : s ≤ 0xffffffff) (k : Nat) :
    change.onNat^[k + 1] s = change.repeated (k + 1) s := by
  cases change with
  | keep => exact iterate_onNat_of_onNat_onNat rfl k
  | raise v => exact iterate_onNat_of_onNat_onNat (max_eq_left (le_max_right _ _)) k
  | add v => exact iterate_onNat_add v hs (k + 1)
  | lower v =>
    rw [repeated]
    by_cases hv : v = 0
    · -- there is nothing to take away
      have hkeep : onNat (.lower v) s = s := by
        rw [onNat, hv]
        exact if_pos (Nat.zero_le s)
      rw [if_pos hv]
      exact Function.iterate_fixed hkeep (k + 1)
    · have hpos : 0 < v.toNat := Nat.pos_of_ne_zero fun h => hv (UInt32.toNat_inj.mp h)
      rw [if_neg hv]
      exact iterate_onNat_lower hpos (k + 1) s
  | clear v =>
    refine iterate_onNat_of_onNat_onNat ?_ k
    by_cases hle : s ≤ v.toNat
    · simp only [onNat, if_pos hle, if_pos (Nat.zero_le v.toNat)]
    · simp only [onNat, if_neg hle]

end Change

/-! ### Many names -/

/-- A name sees as many changes as it is given times, whatever the names between. -/
theorem StrengthMap.foldl_touch (change : Change) {names : List Text}
    (hnames : ∀ name ∈ names, name ≠ []) (m : StrengthMap) (key : Text) :
    names.foldl (fun m name => m.touch change name) m key =
      if (names.map lowercase).count key = 0 then m key
      else some (change.onNat^[(names.map lowercase).count key] ((m key).getD 0)) := by
  induction names generalizing m with
  | nil => rfl
  | cons name names ih =>
    rw [List.forall_mem_cons] at hnames
    rw [List.foldl_cons, ih hnames.2, List.map_cons]
    by_cases hkey : key = lowercase name
    · have htouch : m.touch change name key = some (change.onNat ((m key).getD 0)) :=
        if_pos ⟨hnames.1, hkey⟩
      rw [htouch, ← hkey, List.count_cons_self, if_neg (Nat.succ_ne_zero _),
        Function.iterate_succ_apply, Option.getD_some]
      split
      · next hzero => rw [hzero, Function.iterate_zero_apply]
      · rfl
    · have htouch : m.touch change name key = m key := if_neg fun h => hkey h.2
      rw [htouch, List.count_cons_of_ne (Ne.symm hkey)]

namespace Registry

variable {r : Registry}

theorem strengths_getD_le (r : Registry) (key : Text) :
    (r.strengths key).getD 0 ≤ 0xffffffff := by
  unfold strengths
  cases r.tags.find? key with
  | none => exact Nat.zero_le _
  | some tag => exact Nat.le_of_lt_succ tag.strength.toNat_lt

/-- What a list does to the strength of a name. -/
theorem Canonical.strengths_touchWords (h : r.Canonical) (change : Change) (list key : Text) :
    (r.touchWords change list).strengths key =
      if mentions list key = 0 then r.strengths key
      else some (change.repeated (mentions list key) ((r.strengths key).getD 0)) := by
  have hmap : (r.touchWords change list).strengths =
      (words list).foldl (fun m word => m.touch change word) r.strengths :=
    h.strengths_apply (m := .touchWords change list) fun _ hother => nomatch hother
  rw [hmap, StrengthMap.foldl_touch change fun _ => ne_nil_of_mem_words]
  unfold mentions
  cases ((words list).map lowercase).count key with
  | zero => rfl
  | succ k =>
    rw [if_neg (Nat.succ_ne_zero k), if_neg (Nat.succ_ne_zero k),
      change.iterate_onNat (strengths_getD_le r key)]

/-- A list registers the names that stand in it. -/
theorem Canonical.mem_registered_touchWords (h : r.Canonical) (change : Change)
    (list key : Text) : key ∈ (r.touchWords change list).registered ↔
      key ∈ r.registered ∨ 0 < mentions list key := by
  refine (mem_registered_apply h (.touchWords change list) key).trans (or_congr_right ?_)
  rw [mentions, List.count_pos_iff, List.mem_map]
  constructor
  · rintro ⟨word, hword, -, rfl⟩
    exact ⟨word, hword, rfl⟩
  · rintro ⟨word, hword, rfl⟩
    exact ⟨word, hword, ne_nil_of_mem_words hword, rfl⟩

/-! ### The theorem -/

/-- **Lists act by multiplicity.**  After an operation on a list the registered names are the
old ones and those that stand in the list, and a name that does not stand in it is as it
was.  For a name that stands `k` times in the list, case aside, a strength `s` before, zero
if the name was not registered, becomes: after adding `s + k * v`, up to the greatest
strength; after lowering, `s` less `v` for as many of the `k` times as it can be taken
whole; after raising the greater of `s` and `v`; after clearing zero, unless `s` is above
`v`.  So the order of the words does not matter, nor which blanks are between them. -/
theorem lists_act_by_multiplicity (h : r.Reachable) (list : Text) (v : Strength) :
    (∀ change key, key ∈ (r.touchWords change list).registered ↔
      key ∈ r.registered ∨ 0 < mentions list key) ∧
    (∀ change key, mentions list key = 0 →
      (r.touchWords change list).strengths key = r.strengths key) ∧
    (∀ key, 0 < mentions list key →
      let k := mentions list key
      let s := (r.strengths key).getD 0
      (r.touchWords (.add v) list).strengths key = some (min (s + k * v.toNat) 0xffffffff) ∧
      (r.touchWords (.lower v) list).strengths key =
        some (if v = 0 then s else s - v.toNat * min k (s / v.toNat)) ∧
      (r.touchWords (.raise v) list).strengths key = some (max s v.toNat) ∧
      (r.touchWords (.clear v) list).strengths key = some (if s ≤ v.toNat then 0 else s)) ∧
    ∀ change list', (words list).Perm (words list') →
      r.touchWords change list = r.touchWords change list' := by
  have hr := h.canonical
  refine ⟨fun change key => hr.mem_registered_touchWords change list key, ?_, ?_, ?_⟩
  · intro change key hzero
    rw [hr.strengths_touchWords, if_pos hzero]
  · intro key hpos
    have hstep : ∀ change, (r.touchWords change list).strengths key =
        some (change.repeated (mentions list key) ((r.strengths key).getD 0)) := by
      intro change
      rw [hr.strengths_touchWords, if_neg hpos.ne']
    exact ⟨hstep (.add v), hstep (.lower v), hstep (.raise v), hstep (.clear v)⟩
  · intro change list' hperm
    exact hr.touchEach_perm change hperm

/-- A name in two spellings, a new name, and one that is not in the list; the words in another
order and between other blanks. -/
theorem lists_act_by_multiplicity_spellings :
    let r := ofEntries [("a".toList, 7), ("c".toList, 3)]
    let list := " A b\ta ".toList
    let list' := "b\u3000a\nA".toList
    r.Reachable ∧ mentions list ['a'] = 2 ∧
      (r.touchWords (.lower 3) list).strengths ['a'] = some 1 ∧
      (r.touchWords (.lower 4) list).strengths ['a'] = some 3 ∧
      (r.touchWords (.add 0xfffffffc) list).strengths ['a'] = some 0xffffffff ∧
      (r.touchWords (.lower 3) list).strengths ['c'] = some 3 ∧
      ['b'] ∈ (r.touchWords (.lower 3) list).registered ∧
      r.touchWords (.lower 3) list = r.touchWords (.lower 3) list' := by
  intro r list list'
  have hr : r.Reachable := .build (.entries [("a".toList, 7), ("c".toList, 3)]) rfl
  have htwo : mentions list ['a'] = 2 := by decide +kernel
  have hpos : 0 < mentions list ['a'] := by rw [htwo]; exact Nat.zero_lt_two
  obtain ⟨hregistered, hother, hthree, horder⟩ := lists_act_by_multiplicity hr list 3
  obtain ⟨-, -, hfour, -⟩ := lists_act_by_multiplicity hr list 4
  obtain ⟨-, -, hgreat, -⟩ := lists_act_by_multiplicity hr list 0xfffffffc
  have hperm : (words list).Perm (words list') := by decide +kernel
  refine ⟨hr, htwo, ?_, ?_, ?_, ?_, ?_, horder _ list' hperm⟩
  · rw [(hthree ['a'] hpos).2.1]
    decide +kernel
  · rw [(hfour ['a'] hpos).2.1]
    decide +kernel
  · rw [(hgreat ['a'] hpos).1]
    decide +kernel
  · rw [hother _ ['c'] (by decide +kernel)]
    decide +kernel
  · rw [hregistered]
    exact Or.inr (by decide +kernel)

end Registry

end Questionnaire
