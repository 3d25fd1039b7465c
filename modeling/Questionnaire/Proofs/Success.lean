/-!
# Computations that succeed or fail

What the outcome of a computation with errors says of its parts.  A run is a fold
over its steps, so it succeeds when every step does, and its error is the error of
a step.

## Main results

* `Except.bind_eq_ok`, `Except.bind_pure_eq_ok`, `Except.map_eq_ok`, `Except.mapError_eq_ok` —
  the parts of a computation that succeeds.
* `Except.foldlM_cons_eq_ok`, `Except.foldlM_append_eq_ok` — the parts of a run.
* `Except.bind_eq_error`, `Except.mapError_eq_error` — where an error comes from.
* `Except.exists_of_foldlM_eq_error` — the step at which a run fails.
* `Except.map_foldlM_congr` — runs that are seen alike step by step.
-/

namespace Except

variable {ε ε' α β : Type}

theorem bind_eq_ok {x : Except ε α} {f : α → Except ε β} {b : β} :
    x >>= f = .ok b ↔ ∃ a, x = .ok a ∧ f a = .ok b := by
  cases x with
  | error e =>
    constructor
    · intro h
      cases h
    · rintro ⟨a, h, -⟩
      cases h
  | ok a =>
    constructor
    · intro h
      exact ⟨a, rfl, h⟩
    · rintro ⟨a', h, h'⟩
      cases h
      exact h'

theorem bind_pure_eq_ok {x : Except ε α} {f : α → β} {b : β} :
    (x >>= fun a => pure (f a)) = .ok b ↔ ∃ a, x = .ok a ∧ b = f a := by
  rw [bind_eq_ok]
  exact exists_congr fun a => and_congr_right fun _ =>
    ⟨fun h => (Except.ok.inj h).symm, fun h => h ▸ rfl⟩

theorem bind_pure_eq_map {x : Except ε α} {f : α → β} :
    (x >>= fun a => pure (f a)) = x.map f := by
  cases x <;> rfl

theorem map_eq_ok {x : Except ε α} {f : α → β} {b : β} :
    x.map f = .ok b ↔ ∃ a, x = .ok a ∧ b = f a := by
  rw [← bind_pure_eq_map, bind_pure_eq_ok]

theorem mapError_eq_ok {x : Except ε α} {f : ε → ε'} {a : α} :
    x.mapError f = .ok a ↔ x = .ok a := by
  cases x with
  | error e =>
    constructor
    · intro h
      cases h
    · intro h
      cases h
  | ok a' =>
    -- the same value, in a computation with another kind of errors
    constructor
    · intro h
      cases h
      rfl
    · intro h
      cases h
      rfl

/-- The first step of a run succeeds, and so does the rest from there. -/
theorem foldlM_cons_eq_ok {f : β → α → Except ε β} {x : α} {xs : List α} {b c : β} :
    (x :: xs).foldlM f b = .ok c ↔ ∃ m, f b x = .ok m ∧ xs.foldlM f m = .ok c := by
  rw [List.foldlM_cons]
  exact bind_eq_ok

theorem foldlM_append_eq_ok {f : β → α → Except ε β} {xs ys : List α} {b c : β} :
    (xs ++ ys).foldlM f b = .ok c ↔ ∃ m, xs.foldlM f b = .ok m ∧ ys.foldlM f m = .ok c := by
  rw [List.foldlM_append]
  exact bind_eq_ok

/-! ### Errors -/

/-- The first part fails, or the second part does on what the first one gives. -/
theorem bind_eq_error {x : Except ε α} {f : α → Except ε β} {e : ε} :
    x >>= f = .error e ↔ x = .error e ∨ ∃ a, x = .ok a ∧ f a = .error e := by
  cases x with
  | error e' =>
    constructor
    · intro h
      cases h
      exact Or.inl rfl
    · rintro (h | ⟨a, h, -⟩)
      · cases h
        rfl
      · cases h
  | ok a =>
    constructor
    · intro h
      exact Or.inr ⟨a, rfl, h⟩
    · rintro (h | ⟨a', h, h'⟩)
      · cases h
      · cases h
        exact h'

theorem mapError_eq_error {x : Except ε α} {f : ε → ε'} {e' : ε'} :
    x.mapError f = .error e' ↔ ∃ e, x = .error e ∧ f e = e' := by
  cases x with
  | error e =>
    constructor
    · intro h
      cases h
      exact ⟨e, rfl, rfl⟩
    · rintro ⟨_, h, rfl⟩
      cases h
      rfl
  | ok a =>
    constructor
    · intro h
      cases h
    · rintro ⟨_, h, -⟩
      cases h

theorem map_eq_error {x : Except ε α} {f : α → β} {e : ε} : x.map f = .error e ↔ x = .error e := by
  cases x with
  | error e' =>
    constructor
    · intro h
      cases h
      rfl
    · intro h
      cases h
      rfl
  | ok a =>
    constructor
    · intro h
      cases h
    · intro h
      cases h

/-- A run that fails does so at one of its steps. -/
theorem exists_of_foldlM_eq_error {f : β → α → Except ε β} {xs : List α} {b : β} {e : ε}
    (h : xs.foldlM f b = .error e) : ∃ x ∈ xs, ∃ m, f m x = .error e := by
  induction xs generalizing b with
  | nil => cases h
  | cons x xs ih =>
    rw [List.foldlM_cons, bind_eq_error] at h
    rcases h with h | ⟨m, -, h⟩
    · exact ⟨x, List.mem_cons_self, b, h⟩
    · obtain ⟨y, hy, hfail⟩ := ih h
      exact ⟨y, List.mem_cons_of_mem x hy, hfail⟩

/-! ### What is seen of a run -/

variable {γ : Type}

/-- What is seen of a result does not change an error. -/
theorem eq_error_iff_of_map_eq {x y : Except ε β} {see : β → γ} (h : x.map see = y.map see)
    {e : ε} : x = .error e ↔ y = .error e := by
  cases x with
  | error e' =>
    cases y with
    | error e'' =>
      cases h
      exact Iff.rfl
    | ok b' => cases h
  | ok b =>
    cases y with
    | error e'' => cases h
    | ok b' =>
      constructor
      · intro h'
        cases h'
      · intro h'
        cases h'

/-- Where a step shows nothing of what is not seen, neither does a run. -/
theorem map_foldlM_congr {f : β → α → Except ε β} {see : β → γ} {xs : List α}
    (h : ∀ x ∈ xs, ∀ b b', see b = see b' → (f b x).map see = (f b' x).map see) {b b' : β}
    (hb : see b = see b') : (xs.foldlM f b).map see = (xs.foldlM f b').map see := by
  induction xs generalizing b b' with
  | nil => exact congrArg Except.ok hb
  | cons x xs ih =>
    rw [List.forall_mem_cons] at h
    have hstep := h.1 b b' hb
    rw [List.foldlM_cons, List.foldlM_cons]
    cases hx : f b x with
    | error e =>
      rw [(eq_error_iff_of_map_eq hstep).mp hx]
    | ok m =>
      rw [hx] at hstep
      have hseen : (f b' x).map see = .ok (see m) := hstep.symm
      obtain ⟨m', hm', hsee⟩ := map_eq_ok.mp hseen
      rw [hm']
      exact ih h.2 hsee

end Except
