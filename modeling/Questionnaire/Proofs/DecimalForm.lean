import Mathlib.Algebra.Order.Field.Power
import Mathlib.Data.Rat.Cast.Order
import Mathlib.Tactic.FieldSimp
import Mathlib.Tactic.Positivity
import Mathlib.Tactic.Ring
import Questionnaire.Number.Decimal
import Questionnaire.Proofs.Stretches

/-!
# Written decimal numbers

A decimal number is written as digits, a point with digits behind it, or both, and a
power of ten may follow.  A form is such a number by its parts: it says which text it
stands for and which rational number that is, without reading the text.

## Main definitions

* `Decimal.Power`, `Decimal.Form` — a power of ten and a number by their parts.
* `Decimal.Form.written`, `Decimal.Form.value` — the text and the number.
* `Decimal.toRat` — the rational number of a decimal number.
* `Decimal.Ends r` — a number in front of `r` does not go on in `r`.

## Main results

* `Decimal.Form.scan?_written`, `Decimal.exists_form_of_scan?` — the longest number at the
  start of a text is the form there.
* `Decimal.Form.written_append_inj` — **a text is written in one way as a number and what
  follows it.**
* `Decimal.Form.toRat_decimal` — the number that is read is the number that was written.
* `Decimal.Form.read?_written` — every written number has a double-precision number.
-/

namespace Questionnaire

namespace Decimal

open Text

/-! ### Forms -/

/-- The sign of a power of ten. -/
inductive Sign where
  /-- A power that is not negative. -/
  | plus
  /-- A power that is not positive. -/
  | minus
  deriving DecidableEq, Repr

/-- The sign of a power, which may be left out. -/
def Sign.written : Option Sign → Text
  | none => []
  | some .plus => ['+']
  | some .minus => ['-']

theorem Sign.eq_of_mem_written {sign : Option Sign} {c : Char} (hc : c ∈ Sign.written sign) :
    c = '+' ∨ c = '-' := by
  rcases sign with _ | _ | _
  · cases hc
  · exact Or.inl (List.mem_singleton.mp hc)
  · exact Or.inr (List.mem_singleton.mp hc)

/-- A power of ten behind a number. -/
structure Power where
  /-- The letter before it is a capital one. -/
  capital : Bool
  /-- The sign. -/
  sign : Option Sign
  /-- The digits. -/
  digits : Text
  /-- There is a digit. -/
  digits_ne_nil : digits ≠ []
  /-- There are only digits. -/
  isDigit : ∀ c ∈ digits, c.isDigit = true

namespace Power

/-- The letter before a power. -/
def letter (capital : Bool) : Char := if capital then 'E' else 'e'

/-- The text of a power. -/
def written (p : Power) : Text := letter p.capital :: (Sign.written p.sign ++ p.digits)

/-- The number that a power stands for. -/
def value (p : Power) : Int :=
  if p.sign = some .minus then -Numeral.value p.digits else Numeral.value p.digits

end Power

/-- A decimal number by its parts. -/
structure Form where
  /-- The digits before the point. -/
  whole : Text
  /-- The digits behind the point, if there is one. -/
  fraction : Option Text
  /-- The power of ten, if there is one. -/
  power : Option Power
  /-- There is a digit, before the point or behind it. -/
  digits_ne_nil : whole ++ fraction.getD [] ≠ []
  /-- There are only digits. -/
  isDigit : ∀ c ∈ whole ++ fraction.getD [], c.isDigit = true

/-- The point and the digits behind it. -/
def Form.writtenFraction : Option Text → Text
  | none => []
  | some digits => '.' :: digits

/-- The power of ten, if there is one. -/
def Form.writtenPower (power : Option Power) : Text := (power.map Power.written).getD []

namespace Form

/-- The digits behind the point. -/
def decimals (f : Form) : Text := f.fraction.getD []

/-- The power of ten; none is the power zero. -/
def powerValue (f : Form) : Int := (f.power.map Power.value).getD 0

/-- The text of a number. -/
def written (f : Form) : Text :=
  f.whole ++ (writtenFraction f.fraction ++ writtenPower f.power)

/-- The number that a form stands for. -/
def value (f : Form) : ℚ :=
  (Numeral.value f.whole + Numeral.value f.decimals / 10 ^ f.decimals.length) *
    10 ^ f.powerValue

/-- The number as a coefficient and a power of ten. -/
def decimal (f : Form) : Decimal :=
  ⟨Numeral.value (f.whole ++ f.decimals), f.powerValue - f.decimals.length⟩

end Form

/-- The rational number of a decimal number. -/
def toRat (d : Decimal) : ℚ := d.coefficient * 10 ^ d.exponent

theorem toRat_nonneg (d : Decimal) : 0 ≤ d.toRat := by
  unfold toRat
  positivity

/-- Digits before and behind a point make up one row of digits. -/
theorem Form.toRat_decimal (f : Form) : f.decimal.toRat = f.value := by
  have hrow : Numeral.value (f.whole ++ f.decimals) =
      10 ^ f.decimals.length * Numeral.value f.whole + Numeral.value f.decimals := by
    rw [Numeral.value, Nat.ofDigitChars_append, Nat.ofDigitChars_eq_ofDigitChars_zero]
    rfl
  rw [toRat, decimal, value, hrow, zpow_sub₀ (by norm_num), zpow_natCast]
  push_cast
  field_simp

/-! ### Reading a power -/

/-- What follows a number is no part of it: it does not begin with a digit, a point or a
power of ten. -/
structure Ends (r : Text) : Prop where
  /-- No digit follows. -/
  digit : ∀ c ∈ r.head?, c.isDigit = false
  /-- No point follows. -/
  point : r.head? ≠ some '.'
  /-- No power of ten follows. -/
  power : scanPower r = (0, r)

theorem span_append {p : Char → Bool} {u r : Text} (hu : ∀ c ∈ u, p c = true)
    (hr : ∀ c ∈ r.head?, p c = false) : (u ++ r).span p = (u, r) := by
  rw [List.span_eq_takeWhile_dropWhile, takeWhile_append_of_head? hu hr,
    dropWhile_append_of_head? hu hr]

/-- Without a sign nothing is split off. -/
theorem splitSign_of_head? {t : Text} (ht : ∀ c ∈ t.head?, c ≠ '-' ∧ c ≠ '+') :
    splitSign t = (false, t) := by
  rw [splitSign]
  · rintro u rfl
    exact (ht '-' rfl).1 rfl
  · rintro u rfl
    exact (ht '+' rfl).2 rfl

theorem ne_of_isDigit {c d : Char} (hc : c.isDigit = true) (hd : d.isDigit = false) : c ≠ d := by
  rintro rfl
  rw [hc] at hd
  cases hd

theorem splitSign_written (sign : Option Sign) {t : Text}
    (ht : ∀ c ∈ t.head?, c.isDigit = true) :
    splitSign (Sign.written sign ++ t) = (sign == some .minus, t) := by
  rcases sign with _ | _ | _
  · exact splitSign_of_head? fun c hc =>
      ⟨ne_of_isDigit (ht c hc) (by decide), ne_of_isDigit (ht c hc) (by decide)⟩
  · rfl
  · rfl

namespace Power

theorem head?_digits (p : Power) (r : Text) : ∀ c ∈ (p.digits ++ r).head?, c.isDigit = true := by
  intro c hc
  obtain ⟨d, u, hdigits⟩ := List.exists_cons_of_ne_nil p.digits_ne_nil
  rw [hdigits, List.cons_append, List.head?_cons, Option.mem_some] at hc
  exact p.isDigit c (by rw [hdigits, hc]; exact List.mem_cons_self)

theorem written_append (p : Power) (r : Text) :
    p.written ++ r = letter p.capital :: (Sign.written p.sign ++ (p.digits ++ r)) := by
  simp [written]

/-- A written power is read up to what is no digit. -/
theorem scanPower_written (p : Power) {r : Text} (hr : ∀ c ∈ r.head?, c.isDigit = false) :
    scanPower (p.written ++ r) = (p.value, r) := by
  have hletter : (letter p.capital = 'e' || letter p.capital = 'E') = true := by
    cases p.capital <;> decide
  have hne : p.digits.isEmpty = false := by simpa using p.digits_ne_nil
  rw [written_append, scanPower, if_pos hletter]
  simp only [splitSign_written p.sign (p.head?_digits r), span_append p.isDigit hr, hne,
    Bool.false_eq_true, if_false, value, beq_iff_eq]

end Power

theorem exists_sign (t : Text) :
    ∃ sign, t = Sign.written sign ++ (splitSign t).2 ∧ (splitSign t).1 = (sign == some .minus) := by
  unfold splitSign
  split
  · exact ⟨some .minus, rfl, rfl⟩
  · exact ⟨some .plus, rfl, rfl⟩
  · exact ⟨none, rfl, rfl⟩

/-- At every text a power of ten begins, or none is read. -/
theorem exists_power_or (t : Text) :
    scanPower t = (0, t) ∨ ∃ (p : Power) (r : Text), t = p.written ++ r ∧
      ∀ c ∈ r.head?, c.isDigit = false := by
  cases t with
  | nil => exact Or.inl rfl
  | cons c t =>
    rw [scanPower]
    split
    · next hletter =>
      obtain ⟨sign, hsign, -⟩ := exists_sign t
      obtain ⟨digits, r, htake, hdrop, hrest, hdigits, hend⟩ :=
        exists_stretch Char.isDigit (splitSign t).2
      by_cases hne : digits = []
      · left
        simp only [List.span_eq_takeWhile_dropWhile, htake, hne, List.isEmpty_nil, if_true]
      · refine Or.inr ⟨⟨c == 'E', sign, digits, hne, hdigits⟩, r, ?_, hend⟩
        have hc : Power.letter (c == 'E') = c := by
          rw [Bool.or_eq_true, decide_eq_true_eq, decide_eq_true_eq] at hletter
          rcases hletter with rfl | rfl <;> rfl
        rw [Power.written_append, hc, ← hrest, ← hsign]
    · exact Or.inl rfl

/-- A power has a digit, so a number ends where no digit follows any more. -/
theorem ends_of_forall {r : Text} (hdigit : ∀ c ∈ r, c.isDigit = false)
    (hpoint : r.head? ≠ some '.') : Ends r := by
  refine ⟨fun c hc => hdigit c (List.mem_of_mem_head? hc), hpoint, ?_⟩
  rcases exists_power_or r with h | ⟨p, s, rfl, -⟩
  · exact h
  · obtain ⟨d, digits, hdigits⟩ := List.exists_cons_of_ne_nil p.digits_ne_nil
    have hd : d.isDigit = true := p.isDigit d (hdigits ▸ List.mem_cons_self)
    rw [hdigit d (by simp [p.written_append, hdigits])] at hd
    cases hd

/-! ### Reading a number -/

namespace Form

theorem isDigit_whole (f : Form) : ∀ c ∈ f.whole, c.isDigit = true := fun c hc =>
  f.isDigit c (List.mem_append_left _ hc)

theorem isDigit_decimals (f : Form) : ∀ c ∈ f.decimals, c.isDigit = true := fun c hc =>
  f.isDigit c (List.mem_append_right _ hc)

/-- A power begins with a letter, which is neither a digit nor a point. -/
theorem head?_writtenPower {power : Option Power} {r : Text} (hr : Ends r) :
    (∀ c ∈ (writtenPower power ++ r).head?, c.isDigit = false) ∧
      (writtenPower power ++ r).head? ≠ some '.' := by
  cases power with
  | none => exact ⟨hr.digit, hr.point⟩
  | some p =>
    rw [writtenPower, Option.map_some, Option.getD_some, p.written_append]
    cases p.capital <;> exact ⟨fun c hc => by cases hc; rfl, by simp [Power.letter]⟩

theorem head?_writtenFraction {fraction : Option Text} {power : Option Power} {r : Text}
    (hr : Ends r) :
    ∀ c ∈ (writtenFraction fraction ++ (writtenPower power ++ r)).head?, c.isDigit = false := by
  cases fraction with
  | none => exact (head?_writtenPower hr).1
  | some digits => exact fun c hc => by cases hc; rfl

theorem scanFraction_written {fraction : Option Text} {r : Text}
    (hfraction : ∀ c ∈ fraction.getD [], c.isDigit = true)
    (hdigit : ∀ c ∈ r.head?, c.isDigit = false) (hpoint : r.head? ≠ some '.') :
    scanFraction (writtenFraction fraction ++ r) = (fraction.getD [], r) := by
  cases fraction with
  | none =>
    rw [writtenFraction, List.nil_append, scanFraction]
    · rfl
    · rintro u rfl
      exact hpoint rfl
  | some digits => exact span_append hfraction hdigit

theorem written_append (f : Form) (r : Text) :
    f.written ++ r = f.whole ++ (writtenFraction f.fraction ++ (writtenPower f.power ++ r)) := by
  simp [written]

/-- A written number is read up to where it ends. -/
theorem scan?_written (f : Form) {r : Text} (hr : Ends r) :
    scan? (f.written ++ r) = some (f.decimal, r) := by
  have hdigits : (f.whole.isEmpty && f.decimals.isEmpty) = false := by
    rw [← Bool.not_eq_true, Bool.and_eq_true, List.isEmpty_iff, List.isEmpty_iff,
      ← List.append_eq_nil_iff]
    exact f.digits_ne_nil
  have hpower : scanPower (writtenPower f.power ++ r) = (f.powerValue, r) := by
    rw [powerValue]
    cases f.power with
    | none => exact hr.power
    | some p => exact p.scanPower_written hr.digit
  obtain ⟨hdigit, hpoint⟩ := @head?_writtenPower f.power r hr
  rw [written_append, scan?, span_append f.isDigit_whole (head?_writtenFraction hr)]
  simp only [scanFraction_written f.isDigit_decimals hdigit hpoint]
  rw [← decimals, hdigits, hpower]
  rfl

end Form

theorem exists_fraction (t : Text) :
    ∃ (fraction : Option Text) (r : Text), t = Form.writtenFraction fraction ++ r ∧
      scanFraction t = (fraction.getD [], r) ∧ ∀ c ∈ fraction.getD [], c.isDigit = true := by
  unfold scanFraction
  split
  · next t =>
    obtain ⟨digits, r, -, -, rfl, hdigits, hend⟩ := exists_stretch Char.isDigit t
    exact ⟨some digits, r, rfl, span_append hdigits hend, hdigits⟩
  · exact ⟨none, t, rfl, rfl, fun c hc => absurd hc List.not_mem_nil⟩

theorem exists_power (t : Text) :
    ∃ (power : Option Power) (r : Text), t = Form.writtenPower power ++ r ∧
      scanPower t = ((power.map Power.value).getD 0, r) := by
  rcases exists_power_or t with h | ⟨p, r, rfl, hr⟩
  · exact ⟨none, t, rfl, h⟩
  · exact ⟨some p, r, rfl, p.scanPower_written hr⟩

/-- What is read as a number was written as one. -/
theorem exists_form_of_scan? {t r : Text} {d : Decimal} (h : scan? t = some (d, r)) :
    ∃ f : Form, f.written ++ r = t ∧ f.decimal = d := by
  obtain ⟨whole, t, -, -, rfl, hwhole, hend⟩ := exists_stretch Char.isDigit t
  obtain ⟨fraction, u, rfl, hfraction, hdecimals⟩ := exists_fraction t
  obtain ⟨power, v, rfl, hpower⟩ := exists_power u
  rw [scan?, span_append hwhole hend] at h
  simp only [hfraction, hpower] at h
  split at h
  · cases h
  · next hdigits =>
    cases h
    refine ⟨⟨whole, fraction, power, ?_, ?_⟩, by simp [Form.written], rfl⟩
    · rwa [Ne, List.append_eq_nil_iff, ← List.isEmpty_iff, ← List.isEmpty_iff, ← Bool.and_eq_true]
    · exact List.forall_mem_append.mpr ⟨hwhole, hdecimals⟩

/-! ### One way of writing -/

theorem Sign.written_injective : Function.Injective Sign.written := by
  intro a b h
  rcases a with _ | _ | _ <;> rcases b with _ | _ | _ <;> first | rfl | cases h

theorem Power.letter_injective : Function.Injective Power.letter := by decide

/-- A power and what follows its digits are told apart. -/
theorem Power.written_append_inj {p q : Power} {r s : Text}
    (hr : ∀ c ∈ r.head?, c.isDigit = false) (hs : ∀ c ∈ s.head?, c.isDigit = false)
    (h : p.written ++ r = q.written ++ s) : p = q ∧ r = s := by
  rw [p.written_append, q.written_append] at h
  obtain ⟨hletter, h⟩ := List.cons.inj h
  -- a sign is no digit, so it can be told from what follows it
  have hsign : ∀ (sign : Option Sign), ∀ c ∈ Sign.written sign, (!c.isDigit) = true := by
    intro sign c hc
    rcases Sign.eq_of_mem_written hc with rfl | rfl <;> rfl
  have hdigits : ∀ (p : Power) (r : Text), ∀ c ∈ (p.digits ++ r).head?, (!c.isDigit) = false := by
    intro p r c hc
    rw [p.head?_digits r c hc]
    rfl
  obtain ⟨hsame, h⟩ := append_inj_of_head? (hsign p.sign) (hsign q.sign) (hdigits p r)
    (hdigits q s) h
  obtain ⟨hrow, hrest⟩ := append_inj_of_head? p.isDigit q.isDigit hr hs h
  refine ⟨?_, hrest⟩
  cases p
  cases q
  obtain rfl := letter_injective hletter
  obtain rfl := Sign.written_injective hsame
  obtain rfl := hrow
  rfl

namespace Form

theorem writtenFraction_append_inj {fraction fraction' : Option Text} {r s : Text}
    (hfraction : ∀ c ∈ fraction.getD [], c.isDigit = true)
    (hfraction' : ∀ c ∈ fraction'.getD [], c.isDigit = true)
    (hr : (∀ c ∈ r.head?, c.isDigit = false) ∧ r.head? ≠ some '.')
    (hs : (∀ c ∈ s.head?, c.isDigit = false) ∧ s.head? ≠ some '.')
    (h : writtenFraction fraction ++ r = writtenFraction fraction' ++ s) :
    fraction = fraction' ∧ r = s := by
  cases fraction with
  | none =>
    cases fraction' with
    | none => exact ⟨rfl, h⟩
    | some digits => exact absurd (congrArg List.head? h) hr.2
  | some digits =>
    cases fraction' with
    | none => exact absurd (congrArg List.head? h.symm) hs.2
    | some digits' =>
      obtain ⟨rfl, hrest⟩ :=
        append_inj_of_head? hfraction hfraction' hr.1 hs.1 (List.cons.inj h).2
      exact ⟨rfl, hrest⟩

theorem writtenPower_append_inj {power power' : Option Power} {r s : Text} (hr : Ends r)
    (hs : Ends s) (h : writtenPower power ++ r = writtenPower power' ++ s) :
    power = power' ∧ r = s := by
  -- where no power begins none is read
  have hnone : ∀ {p : Power} {r s : Text}, Ends r → Ends s → r ≠ p.written ++ s := by
    rintro p r s hr hs rfl
    have hread := hr.power
    rw [p.scanPower_written hs.digit] at hread
    have hlength := congrArg List.length (Prod.mk.inj hread).2
    rw [p.written_append, List.length_cons, List.length_append, List.length_append] at hlength
    omega
  cases power with
  | none =>
    cases power' with
    | none => exact ⟨rfl, h⟩
    | some p => exact absurd h (hnone hr hs)
  | some p =>
    cases power' with
    | none => exact absurd h.symm (hnone hs hr)
    | some q =>
      obtain ⟨rfl, hrest⟩ := Power.written_append_inj hr.digit hs.digit h
      exact ⟨rfl, hrest⟩

/-- **A text is written in one way as a number and what follows it.** -/
theorem written_append_inj {f g : Form} {r s : Text} (hr : Ends r) (hs : Ends s)
    (h : f.written ++ r = g.written ++ s) : f = g ∧ r = s := by
  rw [f.written_append, g.written_append] at h
  obtain ⟨hwhole, h⟩ := append_inj_of_head? f.isDigit_whole g.isDigit_whole
    (head?_writtenFraction hr) (head?_writtenFraction hs) h
  obtain ⟨hfraction, h⟩ := writtenFraction_append_inj f.isDigit_decimals g.isDigit_decimals
    (head?_writtenPower hr) (head?_writtenPower hs) h
  obtain ⟨hpower, hrest⟩ := writtenPower_append_inj hr hs h
  refine ⟨?_, hrest⟩
  cases f
  cases g
  obtain rfl := hwhole
  obtain rfl := hfraction
  obtain rfl := hpower
  rfl

/-- A number begins with a digit or with a point. -/
theorem exists_written_eq_cons (f : Form) :
    ∃ c t, f.written = c :: t ∧ (c.isDigit = true ∨ c = '.') := by
  rw [written]
  cases hwhole : f.whole with
  | cons c whole =>
    exact ⟨c, _, rfl, Or.inl (f.isDigit_whole c (hwhole ▸ List.mem_cons_self))⟩
  | nil =>
    cases hfraction : f.fraction with
    | some digits => exact ⟨'.', _, rfl, Or.inr rfl⟩
    | none =>
      have hne := f.digits_ne_nil
      rw [hwhole, hfraction] at hne
      exact absurd rfl hne

theorem toLower_of_isDigit {c : Char} (hc : c.isDigit = true) : c.toLower = c := by
  simp only [Char.isDigit, Bool.and_eq_true, decide_eq_true_eq] at hc
  unfold Char.toLower
  rw [dif_neg]
  rintro ⟨hcapital, -⟩
  exact absurd (UInt32.le_trans hcapital hc.2) (by decide)

/-- Every written number has a double-precision number. -/
theorem read?_written (f : Form) :
    Binary64.read? f.written = some (f.decimal.toBinary64 false) := by
  obtain ⟨c, t, hwritten, hc⟩ := f.exists_written_eq_cons
  have hsign : splitSign f.written = (false, f.written) := by
    refine splitSign_of_head? fun d hd => ?_
    rw [hwritten, List.head?_cons, Option.mem_some] at hd
    subst hd
    rcases hc with hc | rfl
    · exact ⟨ne_of_isDigit hc (by decide), ne_of_isDigit hc (by decide)⟩
    · decide
  have hlower : c.toLower ≠ 'i' ∧ c.toLower ≠ 'n' := by
    rcases hc with hc | rfl
    · rw [toLower_of_isDigit hc]
      exact ⟨ne_of_isDigit hc (by decide), ne_of_isDigit hc (by decide)⟩
    · decide
  have hword : Binary64.ofWord? false (f.written.map Char.toLower) = none := by
    rw [hwritten, List.map_cons, Binary64.ofWord?]
    simp [hlower.1, hlower.2]
  have hscan := f.scan?_written (ends_of_forall (fun c hc => absurd hc List.not_mem_nil) (by simp))
  rw [List.append_nil] at hscan
  simp only [Binary64.read?, hsign, hword, hscan]

end Form

end Decimal

end Questionnaire
