import Mathlib.Data.Char
import Mathlib.Data.List.Induction
import Mathlib.Data.List.Lex
import Questionnaire.Index

/-!
# The order of an index

An index in ascending order has one entry for each of its names, so it is a
finite map.  Changing an entry keeps the order, and is seen under the name of
the entry and under no other.

## Main definitions

* `Index.Ascending` — the names ascend, each listed once.

## Main results

* `Index.Ascending.alter` — a change keeps the order.
* `Index.mem_names_alter` — a change adds its name and takes no name away.
* `Index.Ascending.find?_alter_self`, `Index.find?_alter_of_ne` — what a change is seen as.
* `Index.Ascending.find?_eq_some_iff` — finding an entry and listing it are the same.
* `Index.Ascending.ext` — where the same is found, the same is listed.
* `Index.Ascending.ofEntries_eq` — an index is made of its own entries.
-/

namespace Questionnaire.Index

variable {β : Type} {index : Index β}

/-- The names ascend by code point, each listed once. -/
def Ascending (index : Index β) : Prop := index.names.Pairwise (· < ·)

theorem ascending_nil : Ascending ([] : Index β) := List.Pairwise.nil

theorem ascending_cons {entry : Text × β} :
    Ascending (entry :: index) ↔ (∀ name ∈ index.names, entry.1 < name) ∧ Ascending index :=
  List.pairwise_cons

@[simp] theorem names_nil : names ([] : Index β) = [] := rfl

@[simp] theorem names_cons (entry : Text × β) (index : Index β) :
    names (entry :: index) = entry.1 :: names index := rfl

theorem mem_names_of_mem {entry : Text × β} (h : entry ∈ index) : entry.1 ∈ index.names :=
  List.mem_map_of_mem h

/-! ### Finding -/

/-- What is found is listed. -/
theorem mem_of_find? {name : Text} {value : β} (h : index.find? name = some value) :
    (name, value) ∈ index := by
  induction index with
  | nil => cases h
  | cons entry index ih =>
    obtain ⟨key, v⟩ := entry
    rw [find?_cons] at h
    by_cases hname : name = key
    · rw [if_pos hname] at h
      obtain rfl := Option.some.inj h
      rw [hname]
      exact List.mem_cons_self
    · rw [if_neg hname] at h
      exact List.mem_cons_of_mem _ (ih h)

theorem find?_eq_none_iff {name : Text} : index.find? name = none ↔ name ∉ index.names := by
  induction index with
  | nil => simp
  | cons entry index ih =>
    obtain ⟨key, v⟩ := entry
    rw [find?_cons, names_cons, List.mem_cons, not_or]
    by_cases hname : name = key
    · simp [hname]
    · rw [if_neg hname, ih]
      exact ⟨fun h => ⟨hname, h⟩, fun h => h.2⟩

/-- In ascending order what is listed is found. -/
theorem Ascending.find?_eq_some_iff (h : Ascending index) {name : Text} {value : β} :
    index.find? name = some value ↔ (name, value) ∈ index := by
  refine ⟨mem_of_find?, fun hmem => ?_⟩
  induction index with
  | nil => exact absurd hmem List.not_mem_nil
  | cons entry index ih =>
    obtain ⟨hfirst, hrest⟩ := ascending_cons.mp h
    rw [find?_cons]
    rcases List.mem_cons.mp hmem with rfl | hmem
    · exact if_pos rfl
    · have hlt : entry.1 < name := hfirst name (mem_names_of_mem hmem)
      rw [if_neg hlt.ne']
      exact ih hrest hmem

/-- Where all values are changed alike, what is found is changed. -/
theorem find?_map {γ : Type} (f : β → γ) (index : Index β) (name : Text) :
    find? (index.map fun entry => (entry.1, f entry.2)) name = (index.find? name).map f := by
  induction index with
  | nil => rfl
  | cons entry index ih =>
    obtain ⟨key, v⟩ := entry
    rw [List.map_cons, find?_cons, find?_cons, ih]
    split <;> rfl

/-- Indexes in which the same is found are the same. -/
theorem Ascending.ext {index' : Index β} (h : Ascending index) (h' : Ascending index')
    (hfind : ∀ name, index.find? name = index'.find? name) : index = index' := by
  have hpairwise : List.Pairwise (fun a b : Text × β => a.1 < b.1) index := List.pairwise_map.mp h
  have hpairwise' : List.Pairwise (fun a b : Text × β => a.1 < b.1) index' :=
    List.pairwise_map.mp h'
  have hne : ∀ {a b : Text × β}, a.1 < b.1 → a ≠ b := fun hlt heq => (heq ▸ hlt).false
  have hmem : ∀ entry, entry ∈ index ↔ entry ∈ index' := by
    intro entry
    rw [← h.find?_eq_some_iff, ← h'.find?_eq_some_iff, hfind]
  have hperm : List.Perm index index' :=
    (List.perm_ext_iff_of_nodup (hpairwise.imp hne) (hpairwise'.imp hne)).mpr hmem
  refine hperm.eq_of_pairwise ?_ hpairwise hpairwise'
  intro a b _ _ hab hba
  exact absurd (hab.trans hba) (lt_irrefl _)

/-! ### Changing -/

/-- A change adds its name and takes no name away. -/
theorem mem_names_alter (name : Text) (f : Option β → β) (index : Index β) {key : Text} :
    key ∈ (index.alter name f).names ↔ key = name ∨ key ∈ index.names := by
  induction index with
  | nil => simp
  | cons entry index ih =>
    obtain ⟨first, v⟩ := entry
    rw [alter_cons]
    by_cases hname : name = first
    · simp [hname]
    · rw [if_neg hname]
      by_cases hlt : name < first
      · simp [hlt]
      · rw [if_neg hlt, names_cons, List.mem_cons, ih, names_cons, List.mem_cons]
        exact or_left_comm

theorem Ascending.alter (h : Ascending index) (name : Text) (f : Option β → β) :
    Ascending (index.alter name f) := by
  induction index with
  | nil => exact List.pairwise_singleton _ _
  | cons entry index ih =>
    obtain ⟨first, v⟩ := entry
    obtain ⟨hfirst, hrest⟩ := ascending_cons.mp h
    rw [alter_cons]
    by_cases hname : name = first
    · rw [if_pos hname]
      exact h
    · rw [if_neg hname]
      by_cases hlt : name < first
      · -- below the first name it is below all of them
        rw [if_pos hlt]
        refine ascending_cons.mpr ⟨?_, h⟩
        intro key hkey
        rcases List.mem_cons.mp hkey with rfl | hkey
        · exact hlt
        · exact hlt.trans (hfirst key hkey)
      · -- above the first name it goes somewhere behind it
        rw [if_neg hlt]
        refine ascending_cons.mpr ⟨?_, ih hrest⟩
        intro key hkey
        rcases (mem_names_alter name f index).mp hkey with rfl | hkey
        · exact lt_of_le_of_ne (not_lt.mp hlt) (Ne.symm hname)
        · exact hfirst key hkey

theorem find?_alter_of_ne {name key : Text} (h : key ≠ name) (f : Option β → β)
    (index : Index β) : (index.alter name f).find? key = index.find? key := by
  induction index with
  | nil => simp [find?_cons, h]
  | cons entry index ih =>
    obtain ⟨first, v⟩ := entry
    rw [alter_cons]
    by_cases hname : name = first
    · rw [if_pos hname, find?_cons, find?_cons, if_neg (hname ▸ h), if_neg (hname ▸ h)]
    · rw [if_neg hname]
      by_cases hlt : name < first
      · rw [if_pos hlt, find?_cons, if_neg h]
      · rw [if_neg hlt, find?_cons, find?_cons, ih]

theorem Ascending.find?_alter_self (h : Ascending index) (name : Text) (f : Option β → β) :
    (index.alter name f).find? name = some (f (index.find? name)) := by
  induction index with
  | nil => simp [find?_cons]
  | cons entry index ih =>
    obtain ⟨first, v⟩ := entry
    obtain ⟨hfirst, hrest⟩ := ascending_cons.mp h
    rw [alter_cons]
    by_cases hname : name = first
    · rw [if_pos hname, find?_cons, if_pos hname, find?_cons, if_pos hname]
    · rw [if_neg hname]
      by_cases hlt : name < first
      · -- the names behind are greater still, so there was no entry
        have hnone : Index.find? ((first, v) :: index) name = none := by
          rw [find?_eq_none_iff, names_cons, List.mem_cons, not_or]
          exact ⟨hname, fun hmem => (hlt.trans (hfirst name hmem)).false⟩
        rw [if_pos hlt, find?_cons, if_pos rfl, hnone]
      · rw [if_neg hlt, find?_cons, if_neg hname, ih hrest, find?_cons, if_neg hname]

theorem Ascending.find?_alter (h : Ascending index) (name : Text) (f : Option β → β)
    (key : Text) : (index.alter name f).find? key =
      if key = name then some (f (index.find? name)) else index.find? key := by
  by_cases hkey : key = name
  · rw [if_pos hkey, hkey]
    exact h.find?_alter_self name f
  · rw [if_neg hkey]
    exact find?_alter_of_ne hkey f index

/-! ### Building -/

/-- A new name above all others goes to the end. -/
theorem alter_of_forall_lt {name : Text} (h : ∀ key ∈ index.names, key < name)
    (f : Option β → β) : index.alter name f = index ++ [(name, f none)] := by
  induction index with
  | nil => rfl
  | cons entry index ih =>
    obtain ⟨first, v⟩ := entry
    rw [names_cons, List.forall_mem_cons] at h
    rw [alter_cons, if_neg h.1.ne', if_neg h.1.not_gt, ih h.2, List.cons_append]

/-- An index is made of its own entries. -/
theorem Ascending.ofEntries_eq (h : Ascending index) : Index.ofEntries index = index := by
  induction index using List.reverseRecOn with
  | nil => rfl
  | append_singleton index entry ih =>
    unfold Ascending names at h
    rw [List.map_append, List.pairwise_append] at h
    obtain ⟨hbefore, -, hlast⟩ := h
    have hlt : ∀ key ∈ names index, key < entry.1 := fun key hkey =>
      hlast key hkey entry.1 List.mem_cons_self
    have hstep : Index.ofEntries (index ++ [entry]) =
        Index.alter entry.1 (fun _ => entry.2) (Index.ofEntries index) := by
      rw [Index.ofEntries, List.foldl_append]
      rfl
    rw [hstep, ih hbefore, alter_of_forall_lt hlt]

end Questionnaire.Index
