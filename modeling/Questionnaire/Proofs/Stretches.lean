import Mathlib.Data.List.Basic
import Mathlib.Data.List.TakeWhile
import Questionnaire.Number.Numeral

/-!
# Stretches of a text

Many parts of a written form are stretches of characters of one kind: the word of a key,
the digits of a number.  A stretch ends where a character of another kind follows, so it
can be told from what comes behind it, and the digits of a number tell the number.

## Main results

* `Text.append_inj_of_head?` — a stretch and what follows it are told apart.
* `Numeral.write_append_inj` — **the digits of a number tell the number.**
-/

namespace Questionnaire

/-! ### Stretches -/

namespace Text

variable {p : Char → Bool} {u v r s : Text}

theorem takeWhile_append_of_head? (hu : ∀ c ∈ u, p c = true) (hr : ∀ c ∈ r.head?, p c = false) :
    (u ++ r).takeWhile p = u := by
  rw [List.takeWhile_append_of_pos hu]
  cases r with
  | nil => simp
  | cons c r => rw [List.takeWhile_cons_of_neg (by simp [hr c rfl]), List.append_nil]

theorem dropWhile_append_of_head? (hu : ∀ c ∈ u, p c = true) (hr : ∀ c ∈ r.head?, p c = false) :
    (u ++ r).dropWhile p = r := by
  rw [List.dropWhile_append_of_pos hu]
  cases r with
  | nil => rfl
  | cons c r => exact List.dropWhile_cons_of_neg (by simp [hr c rfl])

/-- Behind the longest stretch stands a character of another kind, if any. -/
theorem not_of_mem_head?_dropWhile (p : Char → Bool) (t : Text) :
    ∀ c ∈ (t.dropWhile p).head?, p c = false := by
  intro c hc
  have h := List.head?_dropWhile_not p t
  rw [Option.mem_def.mp hc] at h
  exact h

/-- Every text begins with its longest stretch. -/
theorem exists_stretch (p : Char → Bool) (t : Text) :
    ∃ u r, t.takeWhile p = u ∧ t.dropWhile p = r ∧ t = u ++ r ∧ (∀ c ∈ u, p c = true) ∧
      ∀ c ∈ r.head?, p c = false :=
  ⟨_, _, rfl, rfl, List.takeWhile_append_dropWhile.symm, fun _ hc => List.mem_takeWhile_imp hc,
    not_of_mem_head?_dropWhile p t⟩

/-- A stretch and what follows it are told apart. -/
theorem append_inj_of_head? (hu : ∀ c ∈ u, p c = true) (hv : ∀ c ∈ v, p c = true)
    (hr : ∀ c ∈ r.head?, p c = false) (hs : ∀ c ∈ s.head?, p c = false)
    (h : u ++ r = v ++ s) : u = v ∧ r = s := by
  have htake := congrArg (List.takeWhile p) h
  have hdrop := congrArg (List.dropWhile p) h
  rw [takeWhile_append_of_head? hu hr, takeWhile_append_of_head? hv hs] at htake
  rw [dropWhile_append_of_head? hu hr, dropWhile_append_of_head? hv hs] at hdrop
  exact ⟨htake, hdrop⟩

/-- What is stripped off behind a text that neither begins nor ends with such a character. -/
theorem strip_append (hne : u ≠ []) (hhead : ∀ c ∈ u.head?, p c = false)
    (hlast : ∀ c ∈ u.getLast?, p c = false) (hv : ∀ c ∈ v, p c = true) : strip p (u ++ v) = u := by
  have hfront : (u ++ v).dropWhile p = u ++ v := by
    obtain ⟨c, rest, rfl⟩ := List.exists_cons_of_ne_nil hne
    exact List.dropWhile_cons_of_neg (by simp [hhead c rfl])
  have hback : (v.reverse ++ u.reverse).dropWhile p = u.reverse := by
    refine dropWhile_append_of_head? (fun c hc => hv c (List.mem_reverse.mp hc)) ?_
    rwa [List.head?_reverse]
  rw [strip, hfront, List.reverse_append, hback, List.reverse_reverse]

end Text

/-! ### Numbers -/

namespace Numeral

open Text

theorem value_write (n : Nat) : value (write n) = n :=
  Nat.ofDigitChars_toDigits (by decide) (by decide)

theorem write_ne_nil (n : Nat) : write n ≠ [] := Nat.toDigits_ne_nil

theorem isDigit_of_mem_write {n : Nat} {c : Char} (h : c ∈ write n) : c.isDigit = true :=
  Nat.isDigit_of_mem_toDigits (by decide) (by decide) h

/-- A number stays on one line. -/
theorem newline_not_mem_write (n : Nat) : '\n' ∉ write n := fun h =>
  absurd (isDigit_of_mem_write h) (by decide)

theorem digitChar_eq_zero : ∀ n < 10, Nat.digitChar n = '0' → n = 0 := by decide

/-- Only the number zero is written with a zero in front. -/
theorem eq_zero_of_head?_write {n : Nat} (h : (write n).head? = some '0') : n = 0 := by
  induction n using Nat.strongRecOn with
  | ind n ih =>
    by_cases hlt : n < 10
    · rw [write, Nat.toDigits_of_lt_base hlt, List.head?_cons] at h
      exact digitChar_eq_zero n hlt (Option.some.inj h)
    · -- the first digit is that of the number without its last digit
      have hge : 10 ≤ n := Nat.le_of_not_lt hlt
      rw [write, Nat.toDigits_of_base_le (by decide) hge,
        List.head?_append_of_ne_nil _ Nat.toDigits_ne_nil] at h
      have hzero : n / 10 = 0 := ih (n / 10) (by omega) h
      omega

/-- The digits of a number, up to what is no digit, tell the number. -/
theorem write_append_inj {m n : Nat} {r s : Text} (hr : ∀ c ∈ r.head?, c.isDigit = false)
    (hs : ∀ c ∈ s.head?, c.isDigit = false) (h : write m ++ r = write n ++ s) :
    m = n ∧ r = s := by
  obtain ⟨hwrite, hrest⟩ := append_inj_of_head? (fun _ => isDigit_of_mem_write)
    (fun _ => isDigit_of_mem_write) hr hs h
  refine ⟨?_, hrest⟩
  rw [← value_write m, hwrite, value_write]

theorem write_injective : Function.Injective write := by
  intro m n h
  have hnil : ∀ c ∈ ([] : Text).head?, c.isDigit = false := fun _ hc => by cases hc
  exact (write_append_inj hnil hnil (congrArg (· ++ []) h)).1

end Numeral

end Questionnaire
