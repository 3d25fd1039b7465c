import Questionnaire.Proofs.RoundedArithmetic
import Questionnaire.Proofs.SizeForm

/-!
# The bytes of a size

The bytes of a size are the whole part of a product that is rounded twice, once when the
number is read and once when it is multiplied by the unit.  Both roundings keep the
order, so more units never make fewer bytes, and two numbers of units that are cut to the
greatest number of bytes enclose only such numbers.

## Main definitions

* `Size.product q k` — the rounded bytes of `q` units of `k` bytes.
* `Size.lastCut k` — the last whole number of units that is cut instead of refused.

## Main results

* `Size.bytes?_eq` — the bytes are the whole part of the product, refused above `2 ^ 64`.
* `Size.bytes?_eq_greatest_iff` — the greatest number of bytes is always cut from one more.
* `Size.read_at_limit` — **which sizes beyond 64 bits are cut, and which are refused.**
-/

namespace Questionnaire.Size

open Text Binary64

/-! ### The product -/

/-- The bytes of `q` units of `k` bytes before they are cut to whole ones: the number is
rounded and the product is rounded. -/
def product (q : ℚ) (k : ℕ) : ℚ := nearest (nearest q * k)

variable {q : ℚ} {k m n : ℕ} {d d' : Decimal}

theorem product_nonneg (q : ℚ) (k : ℕ) : 0 ≤ product q k := nearest_nonneg _

theorem product_exact (q : ℚ) (k : ℕ) : Exact (product q k) :=
  exact_nearest (mul_nonneg (nearest_nonneg q) (Nat.cast_nonneg k))

theorem product_mono {q q' : ℚ} (hq : 0 ≤ q) (h : q ≤ q') (k : ℕ) : product q k ≤ product q' k :=
  nearest_mono (mul_nonneg (nearest_nonneg q) (Nat.cast_nonneg k))
    (mul_le_mul_of_nonneg_right (nearest_mono hq h) (Nat.cast_nonneg k))

/-- A unit is a number of bytes that is exact in double precision. -/
theorem factor_bounds {unit : Text} (h : (unit, k) ∈ unitTable) : 1 ≤ k ∧ k ≤ 2 ^ 53 := by
  have hall : ∀ entry ∈ unitTable, 1 ≤ entry.2 ∧ entry.2 ≤ 2 ^ 53 := by decide
  exact hall _ h

theorem product_represents (hk : 1 ≤ k ∧ k ≤ 2 ^ 53) :
    Represents ((d.toBinary64 false).mul (.ofNat k)) (product d.toRat k) := by
  have hfactor := ofNat_represents_of_exact (exact_natCast hk.2)
  exact d.toBinary64_represents.mul hfactor (by exact_mod_cast hk.1)
    (natCast_lt_beyond (hk.2.trans (by norm_num)))

theorem exact_limit : Exact ((2 : ℚ) ^ 64) := by
  exact_mod_cast exact_two_zpow (e := 64) (by norm_num)

theorem limit_represents : Represents (.ofNat (twoTo 64)) (2 ^ 64 : ℕ) :=
  ofNat_represents_of_exact (by exact_mod_cast exact_limit)

/-- **The bytes are the whole part of the rounded product.**  They are refused above `2 ^ 64`
and cut at it. -/
theorem bytes?_eq (hk : 1 ≤ k ∧ k ≤ 2 ^ 53) :
    bytes? d k = if 2 ^ 64 < ⌊product d.toRat k⌋₊ then none
      else some (min ⌊product d.toRat k⌋₊ greatest) := by
  have hfloor := (product_represents (d := d) hk).floor
  have hlimit : ((2 ^ 64 : ℕ) : ℚ) < beyond := natCast_lt_beyond le_rfl
  rw [bytes?]
  generalize ((d.toBinary64 false).mul (.ofNat k)).floor = b at hfloor
  generalize ⌊product d.toRat k⌋₊ = bytes at hfloor
  generalize hx : (bytes : ℚ) = x at hfloor
  cases hfloor with
  | infinite h =>
    rw [if_pos (Nat.cast_lt.mp (hlimit.trans_le (hx ▸ h)))]
  | @finite m e hm he hlt =>
    have hfinite := Represents.finite hm he hlt
    have hover : lt (.ofNat (twoTo 64)) (.finite false m e) = true ↔ 2 ^ 64 < bytes := by
      rw [limit_represents.lt_iff hfinite hlimit, ← hx, Nat.cast_lt]
    have hcut : toNatBy (· / ·) (.finite false m e) = bytes := by
      rw [hfinite.toNatBy_div hlt, ← hx, Nat.floor_natCast]
    simp only [hover, hcut]

/-! ### The limit of 64 bits -/

/-- No number but `2 ^ 64` lies within a byte of it. -/
theorem product_eq_limit (hlower : greatest ≤ ⌊product q k⌋₊) (hupper : ⌊product q k⌋₊ ≤ 2 ^ 64) :
    product q k = 2 ^ 64 := by
  have hge : (greatest : ℚ) ≤ product q k := (Nat.le_floor_iff (product_nonneg q k)).mp hlower
  have hlt : product q k < (2 ^ 64 : ℕ) + 1 :=
    (Nat.lt_floor_add_one _).trans_le (by exact_mod_cast Nat.succ_le_succ hupper)
  have hclose : |product q k - 2 ^ 64| < 2 ^ 64 / 2 ^ 54 := by
    rw [greatest] at hge
    rw [abs_lt]
    push_cast at hge hlt
    constructor <;> linarith
  rw [← nearest_eq_of_abs_sub_lt exact_limit hclose]
  exact (nearest_of_exact (product_exact q k)).symm

/-- The greatest number of bytes is always cut from one more. -/
theorem bytes?_eq_greatest_iff (hk : 1 ≤ k ∧ k ≤ 2 ^ 53) :
    bytes? d k = some greatest ↔ product d.toRat k = 2 ^ 64 := by
  rw [bytes?_eq hk]
  constructor
  · intro h
    split at h
    · cases h
    · next hle => exact product_eq_limit (min_eq_right_iff.mp (Option.some.inj h)) (not_lt.mp hle)
  · intro h
    have hfloor : ⌊product d.toRat k⌋₊ = 2 ^ 64 := by
      rw [h]
      exact_mod_cast Nat.floor_natCast (R := ℚ) (2 ^ 64)
    rw [hfloor]
    rfl

/-- Any other number of bytes is the whole part of the product. -/
theorem eq_of_bytes?_eq_some (hk : 1 ≤ k ∧ k ≤ 2 ^ 53) {b : ℕ} (h : bytes? d k = some b) :
    (b = greatest ∧ product d.toRat k = 2 ^ 64) ∨ (b < greatest ∧ b = ⌊product d.toRat k⌋₊) := by
  by_cases hb : b = greatest
  · exact Or.inl ⟨hb, (bytes?_eq_greatest_iff hk).mp (hb ▸ h)⟩
  · rw [bytes?_eq hk] at h
    split at h
    · cases h
    · have hmin := Option.some.inj h
      omega

/-- With a number of units a greater one is refused. -/
theorem bytes?_eq_none_of_le (hk : 1 ≤ k ∧ k ≤ 2 ^ 53) (h : d.toRat ≤ d'.toRat)
    (hnone : bytes? d k = none) : bytes? d' k = none := by
  have hfloor := Nat.floor_mono (product_mono d.toRat_nonneg h k)
  rw [bytes?_eq hk] at hnone ⊢
  split at hnone
  · next hlt => exact if_pos (hlt.trans_le hfloor)
  · cases hnone

/-- Between two numbers of units that are cut every one is. -/
theorem bytes?_eq_greatest_of_le {d₁ d₂ : Decimal} (hk : 1 ≤ k ∧ k ≤ 2 ^ 53)
    (h₁ : bytes? d₁ k = some greatest) (h₂ : bytes? d₂ k = some greatest)
    (hlower : d₁.toRat ≤ d.toRat) (hupper : d.toRat ≤ d₂.toRat) :
    bytes? d k = some greatest := by
  rw [bytes?_eq_greatest_iff hk] at h₁ h₂ ⊢
  refine le_antisymm ?_ ?_
  · exact (product_mono d.toRat_nonneg hupper k).trans_eq h₂
  · exact h₁.symm.trans_le (product_mono d₁.toRat_nonneg hlower k)

/-- The last whole number of units that is cut: a product half a step above `2 ^ 64` is still
rounded to it, and among the thousands one number is rounded down before. -/
def lastCut (k : ℕ) : ℕ := if k = 1000 then 18446744073709554 else (2 ^ 64 + 2048) / k

/-- Where refusing begins, and where cutting does, if the unit leaves room for it. -/
theorem bytes?_lastCut : ∀ entry ∈ unitTable,
    bytes? ⟨lastCut entry.2 + 1, 0⟩ entry.2 = none ∧
      ((2 ^ 64 - 1) / entry.2 < lastCut entry.2 →
        bytes? ⟨(2 ^ 64 - 1) / entry.2 + 1, 0⟩ entry.2 = some greatest ∧
          bytes? ⟨lastCut entry.2, 0⟩ entry.2 = some greatest) := by
  decide +kernel

theorem toRat_whole (n : ℕ) : Decimal.toRat ⟨n, 0⟩ = n := by
  rw [Decimal.toRat, zpow_zero, mul_one]

theorem toRat_whole_le (h : m ≤ n) : Decimal.toRat ⟨m, 0⟩ ≤ Decimal.toRat ⟨n, 0⟩ := by
  rw [toRat_whole, toRat_whole]
  exact Nat.cast_le.mpr h

/-- From `2 ^ 64` bytes on a whole number of units is cut or refused. -/
theorem bytes?_whole {unit : Text} (hunit : (unit, k) ∈ unitTable) (hlimit : 2 ^ 64 ≤ n * k) :
    bytes? ⟨n, 0⟩ k =
      if n * k ≤ 2 ^ 64 + 2048 ∨ k = 1000 ∧ n = 18446744073709554 then some greatest
      else none := by
  have hk := factor_bounds hunit
  have hlast : (n * k ≤ 2 ^ 64 + 2048 ∨ k = 1000 ∧ n = 18446744073709554) ↔ n ≤ lastCut k := by
    rw [lastCut]
    split
    · next h =>
      subst h
      omega
    · next h => rw [Nat.le_div_iff_mul_le hk.1, or_iff_left fun hn => h hn.1]
  obtain ⟨hnone, hcut⟩ := bytes?_lastCut (unit, k) hunit
  simp only [hlast]
  split
  · next h =>
    have hfirst : (2 ^ 64 - 1) / k < n := (Nat.div_lt_iff_lt_mul hk.1).mpr (by omega)
    obtain ⟨hlower, hupper⟩ := hcut (hfirst.trans_le h)
    exact bytes?_eq_greatest_of_le hk hlower hupper (toRat_whole_le hfirst) (toRat_whole_le h)
  · next h => exact bytes?_eq_none_of_le hk (toRat_whole_le (not_le.mp h)) hnone

theorem isAlpha_of_mem_unit {unit : Text} (h : (unit, k) ∈ unitTable) :
    ∀ c ∈ unit, c.isAlpha = true := by
  have hall : ∀ entry ∈ unitTable, entry.1.all Char.isAlpha = true := by decide
  exact List.all_eq_true.mp (hall _ h)

/-- A row of digits is a whole number. -/
theorem exists_whole {digits : Text} (hne : digits ≠ [])
    (hdigits : ∀ c ∈ digits, c.isDigit = true) :
    ∃ f : Decimal.Form, f.written = digits ∧ f.decimal = ⟨Numeral.value digits, 0⟩ := by
  refine ⟨⟨digits, none, none, by simpa using hne, by simpa using hdigits⟩, ?_, ?_⟩
  · simp [Decimal.Form.written, Decimal.Form.writtenFraction, Decimal.Form.writtenPower]
  · simp [Decimal.Form.decimal, Decimal.Form.decimals, Decimal.Form.powerValue]

/-- What is accepted as a size is written as one, with a known unit. -/
theorem exists_form_of_read {t : Text} {b : ℕ} (h : read t = .ok b) :
    ∃ (f : Form) (k : ℕ), f.written = trim t ∧ (f.unit, k) ∈ unitTable ∧
      bytes? f.number.decimal k = some b := by
  cases hsplit : split? (trim t) with
  | none =>
    rw [read, hsplit] at h
    cases h
  | some parts =>
    obtain ⟨f, hf, -, -⟩ := exists_form_of_split? hsplit
    rw [read_written hf] at h
    split at h
    · cases h
    · next k hk =>
      split at h
      · cases h
      · next bytes hbytes =>
        cases h
        exact ⟨f, k, hf, bytesOf?_eq_some_iff.mp hk, hbytes⟩

/-- **What happens at the limit of 64 bits.**  A whole number of units that makes up
`2 ^ 64` bytes or more is refused if it is more than half a step above the limit; below that it
is cut to the greatest number of bytes, and so is one number of thousands a little above.
No other size is cut: what is accepted is the greatest number of bytes where the rounded
product is `2 ^ 64`, and otherwise its whole part. -/
theorem read_at_limit (t : Text) :
    (∀ (digits blanks unit : Text) (k : ℕ), t = digits ++ (blanks ++ unit) → digits ≠ [] →
      (∀ c ∈ digits, c.isDigit = true) → (∀ c ∈ blanks, isBlank c = true) →
      (unit, k) ∈ unitTable → 2 ^ 64 ≤ Numeral.value digits * k →
      read t =
        if Numeral.value digits * k ≤ 2 ^ 64 + 2048 ∨
            k = 1000 ∧ Numeral.value digits = 18446744073709554 then .ok greatest
        else .error (.range (trim t))) ∧
    ∀ b : ℕ, read t = .ok b →
      ∃ (f : Form) (k : ℕ), f.written = trim t ∧ (f.unit, k) ∈ unitTable ∧
        ((b = greatest ∧ product f.number.value k = 2 ^ 64) ∨
          (b < greatest ∧ b = ⌊product f.number.value k⌋₊)) := by
  refine ⟨?_, ?_⟩
  · intro digits blanks unit k ht hne hdigits hblanks hunit hlimit
    obtain ⟨number, hwritten, hdecimal⟩ := exists_whole hne hdigits
    obtain ⟨f, hf, hnumber, hfunit⟩ :=
      exists_form_trim number hblanks (isAlpha_of_mem_unit hunit)
    rw [hwritten, ← ht] at hf
    rw [read_written hf, hnumber, hfunit, bytesOf?_eq_some_iff.mpr hunit, hdecimal]
    simp only [bytes?_whole hunit hlimit]
    by_cases hcut : Numeral.value digits * k ≤ 2 ^ 64 + 2048 ∨
        k = 1000 ∧ Numeral.value digits = 18446744073709554
    · simp only [if_pos hcut]
    · simp only [if_neg hcut]
  · intro b h
    obtain ⟨f, k, hf, hunit, hbytes⟩ := exists_form_of_read h
    have hcases := eq_of_bytes?_eq_some (factor_bounds hunit) hbytes
    rw [f.number.toRat_decimal] at hcases
    exact ⟨f, k, hf, hunit, hcases⟩

/-- The last number of bytes that is cut, and the first one that is refused. -/
theorem read_at_limit_bytes :
    read "18446744073709553664 B".toList = .ok greatest ∧
      read "18446744073709553665 B".toList =
        .error (.range "18446744073709553665 B".toList) ∧
      ∃ (f : Form) (k : ℕ), f.written = trim "2kB".toList ∧ (f.unit, k) ∈ unitTable ∧
        ((2000 = greatest ∧ product f.number.value k = 2 ^ 64) ∨
          (2000 < greatest ∧ 2000 = ⌊product f.number.value k⌋₊)) := by
  refine ⟨?_, ?_, ?_⟩
  · have h := (read_at_limit "18446744073709553664 B".toList).1 "18446744073709553664".toList [' ']
      ['B'] 1 (by decide) (by decide) (List.all_eq_true.mp (by decide))
      (List.all_eq_true.mp (by decide)) (by decide) (by decide +kernel)
    rwa [if_pos (by decide +kernel)] at h
  · have h := (read_at_limit "18446744073709553665 B".toList).1 "18446744073709553665".toList [' ']
      ['B'] 1 (by decide) (by decide) (List.all_eq_true.mp (by decide))
      (List.all_eq_true.mp (by decide)) (by decide) (by decide +kernel)
    rwa [if_neg (by decide +kernel)] at h
  · exact (read_at_limit "2kB".toList).2 2000 (by decide +kernel)

/-- The limit is one too high: the first number beyond 64 bits is accepted, and one byte is
cut off. -/
theorem read_cuts_two_pow_64 :
    Numeral.value "18446744073709551616".toList = 2 ^ 64 ∧
      read "18446744073709551616".toList = .ok 18446744073709551615 := by
  decide +kernel

end Questionnaire.Size
