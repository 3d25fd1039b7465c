import Mathlib.Tactic.SplitIfs
import Questionnaire.Proofs.Stretches
import Questionnaire.Text.Quoted

/-!
# The visible form tells the text

A character of a text is shown as itself, as a backslash with a letter, or as a code
between braces.  Each of these forms says where it ends, so a text is read back from its
visible form one character after the other, and the closing quote is none of them.

## Main definitions

* `Text.hexValue` — the number that a row of hexadecimal digits stands for.
* `Text.unescape?` — the first character of a visible text, and what follows it.

## Main results

* `Text.unescape?_escapeChar` — **a character is read back.**
* `Text.quoted_append_inj` — the visible form tells the text, and where it ends.
* `Text.newline_not_mem_quoted` — the visible form stays on one line.
-/

namespace Questionnaire.Text

/-! ### Hexadecimal digits -/

/-- The number that a row of hexadecimal digits stands for. -/
def hexValue (digits : Text) : Nat :=
  digits.foldl (fun n c => 16 * n + (hexDigit? c).getD 0) 0

theorem hexDigit?_digitChar : ∀ d < 16, hexDigit? (Nat.digitChar d) = some d := by decide

theorem hexDigits_of_lt {n : Nat} (h : n < 16) : hexDigits n = [Nat.digitChar n] :=
  Nat.toDigits_of_lt_base h

theorem hexDigits_of_le {n : Nat} (h : 16 ≤ n) :
    hexDigits n = hexDigits (n / 16) ++ [Nat.digitChar (n % 16)] :=
  Nat.toDigits_of_base_le (by decide) h

theorem hexValue_concat (u : Text) {d : Nat} (hd : d < 16) :
    hexValue (u ++ [Nat.digitChar d]) = 16 * hexValue u + d := by
  rw [hexValue, List.foldl_concat, hexDigit?_digitChar d hd]
  rfl

theorem hexValue_hexDigits (n : Nat) : hexValue (hexDigits n) = n := by
  induction n using Nat.strongRecOn with
  | ind n ih =>
    by_cases hlt : n < 16
    · have hone := hexValue_concat [] hlt
      rw [hexDigits_of_lt hlt]
      simpa [hexValue] using hone
    · have hge : 16 ≤ n := Nat.le_of_not_lt hlt
      rw [hexDigits_of_le hge, hexValue_concat _ (Nat.mod_lt n (by decide)), ih (n / 16) (by omega)]
      omega

theorem exists_of_mem_hexDigits {n : Nat} {c : Char} (h : c ∈ hexDigits n) :
    ∃ d < 16, c = Nat.digitChar d := by
  induction n using Nat.strongRecOn with
  | ind n ih =>
    by_cases hlt : n < 16
    · rw [hexDigits_of_lt hlt] at h
      exact ⟨n, hlt, List.mem_singleton.mp h⟩
    · have hge : 16 ≤ n := Nat.le_of_not_lt hlt
      rw [hexDigits_of_le hge] at h
      rcases List.mem_append.mp h with h | h
      · exact ih (n / 16) (by omega) h
      · exact ⟨n % 16, Nat.mod_lt n (by decide), List.mem_singleton.mp h⟩

/-- A hexadecimal digit neither closes a code nor begins a line. -/
theorem digitChar_ne : ∀ d < 16, Nat.digitChar d ≠ '\x7d' ∧ Nat.digitChar d ≠ '\n' := by decide

/-! ### One character -/

/-- The character that a letter behind a backslash stands for. -/
def ofLetter (c : Char) : Char :=
  if c = '0' then '\x00'
  else if c = 't' then '\t'
  else if c = 'r' then '\r'
  else if c = 'n' then '\n'
  else c

/-- The character escaped by what stands behind a backslash, and what follows it. -/
def unescapeTail? : Text → Option (Char × Text)
  | 'u' :: '\x7b' :: r =>
    let digits := r.takeWhile (· != '\x7d')
    some (Char.ofNat (hexValue digits), r.drop (digits.length + 1))
  | e :: r => some (ofLetter e, r)
  | [] => none

/-- The first character of a visible text, and what follows it.  A quote closes the text. -/
def unescape? : Text → Option (Char × Text)
  | [] => none
  | c :: r => if c = '"' then none else if c = '\\' then unescapeTail? r else some (c, r)

theorem unescapeTail?_code (c : Char) (r : Text) :
    unescapeTail? ('u' :: '\x7b' :: (hexDigits c.toNat ++ '\x7d' :: r)) = some (c, r) := by
  have hdigits : ∀ d ∈ hexDigits c.toNat, (d != '\x7d') = true := by
    intro d hd
    obtain ⟨n, hn, rfl⟩ := exists_of_mem_hexDigits hd
    exact bne_iff_ne.mpr (digitChar_ne n hn).1
  have htake : (hexDigits c.toNat ++ '\x7d' :: r).takeWhile (· != '\x7d') = hexDigits c.toNat :=
    takeWhile_append_of_head? hdigits fun d hd => by
      obtain rfl := Option.some.inj hd
      rfl
  rw [unescapeTail?]
  simp only [htake, hexValue_hexDigits, Char.ofNat_toNat]
  rw [List.drop_append, List.drop_eq_nil_of_le (by omega)]
  simp

/-- **A character is read back** from its visible form. -/
theorem unescape?_escapeChar (c : Char) (r : Text) :
    unescape? (escapeChar c ++ r) = some (c, r) := by
  unfold escapeChar
  split_ifs with hnull htab hreturn hnewline hquote hbackslash hcode
  · rw [hnull]
    rfl
  · rw [htab]
    rfl
  · rw [hreturn]
    rfl
  · rw [hnewline]
    rfl
  · rw [hquote]
    rfl
  · rw [hbackslash]
    rfl
  · have happ : ['\\', 'u', '\x7b'] ++ hexDigits c.toNat ++ ['\x7d'] ++ r =
        '\\' :: 'u' :: '\x7b' :: (hexDigits c.toNat ++ '\x7d' :: r) := by simp
    rw [happ]
    exact unescapeTail?_code c r
  · rw [List.singleton_append, unescape?, if_neg hquote, if_neg hbackslash]

theorem newline_not_mem_escapeChar (c : Char) : '\n' ∉ escapeChar c := by
  unfold escapeChar
  split_ifs with hnull htab hreturn hnewline hquote hbackslash hcode
  · decide
  · decide
  · decide
  · decide
  · decide
  · decide
  · intro h
    rcases List.mem_append.mp h with h | h
    · rcases List.mem_append.mp h with h | h
      · exact absurd h (by decide)
      · obtain ⟨d, hd, hnl⟩ := exists_of_mem_hexDigits h
        exact (digitChar_ne d hd).2 hnl.symm
    · exact absurd h (by decide)
  · exact fun h => hnewline (List.mem_singleton.mp h).symm

/-! ### Texts -/

/-- The visible characters of a text, up to the closing quote, tell the text. -/
theorem flatMap_escapeChar_append_inj {t u r s : Text}
    (h : t.flatMap escapeChar ++ '"' :: r = u.flatMap escapeChar ++ '"' :: s) :
    t = u ∧ r = s := by
  induction t generalizing u with
  | nil =>
    cases u with
    | nil => exact ⟨rfl, (List.cons.inj h).2⟩
    | cons d u =>
      -- a quote in the text is escaped, so the closing one is not read as a character
      have hread := congrArg unescape? h
      rw [List.flatMap_cons, List.append_assoc, unescape?_escapeChar] at hread
      cases hread
  | cons c t ih =>
    have hread := congrArg unescape? h
    rw [List.flatMap_cons, List.append_assoc, unescape?_escapeChar] at hread
    cases u with
    | nil => cases hread
    | cons d u =>
      rw [List.flatMap_cons, List.append_assoc, unescape?_escapeChar] at hread
      obtain ⟨rfl, hrest⟩ := Prod.mk.inj (Option.some.inj hread)
      obtain ⟨rfl, hrs⟩ := ih hrest
      exact ⟨rfl, hrs⟩

/-- The visible form tells the text, and where it ends. -/
theorem quoted_append_inj {t u r s : Text} (h : quoted t ++ r = quoted u ++ s) :
    t = u ∧ r = s := by
  refine flatMap_escapeChar_append_inj ?_
  simpa [quoted] using h

/-- The visible form stays on one line. -/
theorem newline_not_mem_quoted (t : Text) : '\n' ∉ quoted t := by
  have hbody : '\n' ∉ t.flatMap escapeChar := by
    intro h
    obtain ⟨c, -, hc⟩ := List.mem_flatMap.mp h
    exact newline_not_mem_escapeChar c hc
  simp [quoted, hbody]

end Questionnaire.Text
