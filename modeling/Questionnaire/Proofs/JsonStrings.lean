import Mathlib.Tactic.SplitIfs
import Questionnaire.Json.Quoted

/-!
# Written strings are read back

Writing a text as a JSON string and reading it gives the text, whatever its characters.
A character is written as itself, as a backslash with a letter, or as the four digits of
its code; only codes below the space are written as digits, so none is half of a pair and
no two codes are read as one character.

## Main definitions

* `Json.writtenPart` — the part that a written character is read as.

## Main results

* `Json.readParts?_escapeChar` — one character.
* `Json.closeString?_escaped`, `Json.quoted_append_inj` — **a text.**
-/

namespace Questionnaire.Json

open Text

/-- The part that a written character is read as: its code if it was written as one. -/
def writtenPart (c : Char) : Part :=
  if c.toNat < 0x20 ∧ c ∉ ['\x08', '\t', '\n', '\x0c', '\r'] then .code c.toNat else .char c

/-! ### One character -/

theorem readParts?_code {a b c d : Char} {n : Nat} (h : code? a b c d = some n) (r : Text) :
    readParts? ('\\' :: 'u' :: a :: b :: c :: d :: r) =
      (readParts? r).map (consPart (.code n)) := by
  rw [readParts?, h]

theorem readParts?_plain {c : Char} (hquote : c ≠ '"') (hbackslash : c ≠ '\\')
    (hcontrol : ¬ c.toNat < 0x20) (r : Text) :
    readParts? (c :: r) = (readParts? r).map (consPart (.char c)) := by
  rw [readParts?, if_neg hquote, if_neg (by simp [hbackslash, hcontrol])]
  · intro a b c' d r' hc
    exact absurd hc hbackslash
  · intro e r' hc
    exact absurd hc hbackslash

/-- The digits of a code below the space. -/
theorem code?_control : ∀ n < 0x20,
    code? '0' '0' (Nat.digitChar (n / 16)) (Nat.digitChar (n % 16)) = some n := by
  decide

/-- A written character is read as one part. -/
theorem readParts?_escapeChar (c : Char) (r : Text) :
    readParts? (escapeChar c ++ r) = (readParts? r).map (consPart (writtenPart c)) := by
  unfold escapeChar
  split_ifs with hquote hbackslash hb ht hn hf hr hcontrol
  · rw [hquote]
    rfl
  · rw [hbackslash]
    rfl
  · rw [hb]
    rfl
  · rw [ht]
    rfl
  · rw [hn]
    rfl
  · rw [hf]
    rfl
  · rw [hr]
    rfl
  · have hpart : writtenPart c = .code c.toNat :=
      if_pos ⟨hcontrol, by simp [hb, ht, hn, hf, hr]⟩
    rw [hpart]
    exact readParts?_code (code?_control c.toNat hcontrol) r
  · have hpart : writtenPart c = .char c := if_neg fun h => hcontrol h.1
    rw [hpart]
    exact readParts?_plain hquote hbackslash hcontrol r

/-- The part that a written character is read as stands for that character. -/
theorem joinParts?_cons_writtenPart (c : Char) (parts : List Part) :
    joinParts? (writtenPart c :: parts) = (joinParts? parts).map (c :: ·) := by
  unfold writtenPart
  split_ifs with h
  · -- the code is no half of a pair, whatever comes next
    have hhigh : isHighCode c.toNat = false := by
      simp only [isHighCode, Bool.and_eq_false_iff, decide_eq_false_iff_not]
      omega
    have hlow : isLowCode c.toNat = false := by
      simp only [isLowCode, Bool.and_eq_false_iff, decide_eq_false_iff_not]
      omega
    cases parts with
    | nil => simp [joinParts?, hhigh, hlow, Char.ofNat_toNat]
    | cons part parts =>
      cases part with
      | char d => simp [joinParts?, hhigh, hlow, Char.ofNat_toNat]
      | code n => simp [joinParts?, hhigh, hlow, Char.ofNat_toNat]
  · rfl

/-! ### Texts -/

theorem readParts?_escaped (t r : Text) :
    readParts? (t.flatMap escapeChar ++ '"' :: r) = some (t.map writtenPart, r) := by
  induction t with
  | nil => rfl
  | cons c t ih =>
    rw [List.flatMap_cons, List.append_assoc, readParts?_escapeChar, ih]
    rfl

theorem joinParts?_map_writtenPart (t : Text) : joinParts? (t.map writtenPart) = some t := by
  induction t with
  | nil => rfl
  | cons c t ih =>
    rw [List.map_cons, joinParts?_cons_writtenPart, ih]
    rfl

/-- **A written string is read back,** up to its closing quote. -/
theorem closeString?_escaped (t r : Text) :
    closeString? (t.flatMap escapeChar ++ '"' :: r) = some (t, r) := by
  rw [closeString?, readParts?_escaped]
  simp [joinParts?_map_writtenPart]

/-- A written string tells the text, and where it ends. -/
theorem quoted_append_inj {t u r s : Text} (h : quoted t ++ r = quoted u ++ s) :
    t = u ∧ r = s := by
  have hbody : t.flatMap escapeChar ++ '"' :: r = u.flatMap escapeChar ++ '"' :: s := by
    simpa [quoted] using h
  have hread := congrArg closeString? hbody
  rw [closeString?_escaped, closeString?_escaped] at hread
  exact Prod.mk.inj (Option.some.inj hread)

end Questionnaire.Json
