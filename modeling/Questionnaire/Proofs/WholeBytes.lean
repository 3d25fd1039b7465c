import Questionnaire.Proofs.SizeBytes

/-!
# Whole numbers of bytes

A size may make up a whole number of bytes though its number is not exact in double
precision.  Then the product is near that whole number, and it is rounded towards it as
far as the steps there allow; but if it stays below, its whole part is one byte less.

## Main results

* `Size.le_product_add_one`, `Size.product_lt_add` — how much is lost or added.
* `Size.product_eq_of_exact`, `Size.product_eq_of_close` — where nothing is.
* `Size.read_whole_bytes` — **a whole number of bytes is off by one at most.**
-/

namespace Questionnaire.Size

open Text Binary64

variable {q : ℚ} {k m : ℕ}

/-! ### The rounded product -/

section Whole

variable (hk : 1 ≤ k ∧ k ≤ 2 ^ 53) (hq : q * k = m) (hm : m ≤ 2 ^ 53)

include hk hq hm

/-- At most one byte is lost. -/
theorem le_product_add_one : (m : ℚ) ≤ product q k + 1 := by
  have hm' : (m : ℚ) ≤ 2 ^ 53 := by exact_mod_cast hm
  obtain ⟨hlower, -⟩ := abs_lt.mp (abs_nearest_mul_sub_lt hq hk hm' (by norm_num))
  cases m with
  | zero =>
    rw [Nat.cast_zero]
    exact add_nonneg (product_nonneg q k) zero_le_one
  | succ n =>
    have hle : (n : ℚ) ≤ nearest q * k := by
      push_cast at hlower
      linarith
    push_cast
    exact add_le_add_left (le_nearest_of_exact (exact_natCast (by omega)) hle) 1

omit hm in
/-- The steps at a product of at most `2 ^ j` bytes tell how much is added. -/
theorem product_lt_add {j : ℤ} (hj : 0 ≤ j) (hle : (m : ℚ) ≤ 2 ^ j) :
    product q k < m + 2 ^ (j - 52) := by
  have hnonneg : 0 ≤ nearest q * k := mul_nonneg (nearest_nonneg q) (Nat.cast_nonneg k)
  obtain ⟨-, hupper⟩ := abs_lt.mp (abs_nearest_mul_sub_lt hq hk hle (by positivity))
  have herror : (2 : ℚ) ^ j / 2 ^ 53 = 2 ^ (j - 53) := by
    rw [zpow_sub₀ two_ne_zero]
    rfl
  rw [herror] at hupper
  have hlt : nearest q * k < 2 ^ (j + 1) := by
    have hpow : (2 : ℚ) ^ (j - 53) ≤ 2 ^ j := zpow_le_zpow_right₀ one_le_two (by omega)
    rw [zpow_add_one₀ two_ne_zero]
    linarith
  calc product q k ≤ nearest q * k + 2 ^ (j + 1 - 54) := nearest_le_add hnonneg (by omega) hlt
    _ = nearest q * k + 2 ^ (j - 53) := by
      congr 2
      omega
    _ < m + 2 ^ (j - 53) + 2 ^ (j - 53) := by linarith
    _ = m + 2 ^ (j - 52) := by
      rw [show j - 52 = j - 53 + 1 by omega, zpow_add_one₀ two_ne_zero]
      ring

omit hk in
/-- A byte is lost only where the number is rounded down. -/
theorem le_product (hup : q ≤ nearest q) : (m : ℚ) ≤ product q k := by
  have hle : (m : ℚ) ≤ nearest q * k :=
    hq.symm.trans_le (mul_le_mul_of_nonneg_right hup (Nat.cast_nonneg k))
  exact le_nearest_of_exact (exact_natCast hm) hle

omit hk in
/-- Nothing is lost where the number is exact in double precision. -/
theorem product_eq_of_exact (hexact : Exact q) : product q k = m := by
  rw [product, nearest_of_exact hexact, hq, nearest_of_exact (exact_natCast hm)]

/-- Nothing is lost where the number is rounded by little. -/
theorem product_eq_of_close (hclose : |nearest q - q| < q / 2 ^ 54) : product q k = m := by
  have hpos : (0 : ℚ) < k := by exact_mod_cast hk.1
  refine nearest_eq_of_abs_sub_lt (exact_natCast hm) ?_
  calc |nearest q * k - m| = |nearest q - q| * k := abs_nearest_mul_sub hq
    _ < q / 2 ^ 54 * k := mul_lt_mul_of_pos_right hclose hpos
    _ = m / 2 ^ 54 := by rw [← hq, div_mul_eq_mul_div]

omit hk in
/-- A whole number of units and the part that a power of two divides it into are exact. -/
theorem exact_of_whole (hk : 1 ≤ k) (h : (∃ n : ℕ, q = n) ∨ ∃ j : ℕ, j ≤ 1074 ∧ k = 2 ^ j) :
    Exact q := by
  rcases h with ⟨n, rfl⟩ | ⟨j, hj, rfl⟩
  · refine exact_natCast (le_trans ?_ hm)
    have hle : (n : ℚ) ≤ m := hq ▸ le_mul_of_one_le_right (Nat.cast_nonneg n) (by exact_mod_cast hk)
    exact_mod_cast hle
  · refine ⟨m, -j, hm, by omega, ?_⟩
    rw [← hq, zpow_neg, zpow_natCast, Nat.cast_pow, Nat.cast_ofNat,
      mul_inv_cancel_right₀ (by positivity)]

end Whole

/-! ### What is read -/

/-- **Whole numbers of bytes are off by one at most.**  A size that makes up a whole number of
bytes, of at most `2 ^ 53`, is read as that number or as one next to it.  Up to `2 ^ 52` it is
not read as the greater one, and it is not read as the lesser one unless the number is
rounded down.  It is read as itself if the number is whole, the unit is a power of two, or
the number is exact in double precision or rounded by less than its `2 ^ 54`-th part. -/
theorem read_whole_bytes {t : Text} {f : Form} (hf : f.written = trim t)
    (hunit : (f.unit, k) ∈ unitTable) (hq : f.number.value * k = m) (hm : m ≤ 2 ^ 53) :
    ∃ b, read t = .ok b ∧ b = ⌊product f.number.value k⌋₊ ∧ m ≤ b + 1 ∧ b ≤ m + 1 ∧
      (m ≤ 2 ^ 52 → b ≤ m) ∧
      (f.number.value ≤ nearest f.number.value → m ≤ b) ∧
      ((∃ n : ℕ, f.number.value = n) ∨ (∃ j : ℕ, k = 2 ^ j) → b = m) ∧
      (Exact f.number.value → b = m) ∧
      (|nearest f.number.value - f.number.value| < f.number.value / 2 ^ 54 → b = m) := by
  have hk := factor_bounds hunit
  have hnonneg := product_nonneg f.number.value k
  have hbound : ⌊product f.number.value k⌋₊ < m + 2 := by
    have hlt := product_lt_add (j := 53) hk hq (by norm_num) (by exact_mod_cast hm)
    norm_num at hlt
    exact (Nat.floor_lt hnonneg).mpr (by exact_mod_cast hlt)
  have hbytes : bytes? f.number.decimal k = some ⌊product f.number.value k⌋₊ := by
    rw [bytes?_eq hk, f.number.toRat_decimal, if_neg (by omega),
      min_eq_left (by rw [greatest]; omega)]
  have hread : read t = .ok ⌊product f.number.value k⌋₊ := by
    rw [read_written hf, bytesOf?_eq_some_iff.mpr hunit]
    simp only [hbytes]
  have hfloor : product f.number.value k = m → ⌊product f.number.value k⌋₊ = m := by
    intro h
    rw [h, Nat.floor_natCast]
  have hexact : Exact f.number.value → ⌊product f.number.value k⌋₊ = m := fun h =>
    hfloor (product_eq_of_exact hq hm h)
  refine ⟨_, hread, rfl, ?_, by omega, ?_, ?_, ?_, hexact, ?_⟩
  · have hle := le_product_add_one hk hq hm
    rw [← Nat.floor_add_one hnonneg]
    exact Nat.le_floor hle
  · intro hhalf
    have hlt := product_lt_add (j := 52) hk hq (by norm_num) (by exact_mod_cast hhalf)
    norm_num at hlt
    exact Nat.lt_succ_iff.mp ((Nat.floor_lt hnonneg).mpr (by exact_mod_cast hlt))
  · exact fun hup => Nat.le_floor (le_product hq hm hup)
  · rintro (h | ⟨j, hj⟩)
    · exact hexact (exact_of_whole hq hm hk.1 (Or.inl h))
    · have hpow : j ≤ 53 := (Nat.pow_le_pow_iff_right one_lt_two).mp (hj ▸ hk.2)
      exact hexact (exact_of_whole hq hm hk.1 (Or.inr ⟨j, by omega, hj⟩))
  · exact fun hclose => hfloor (product_eq_of_close hk hq hm hclose)

/-- A thousand and one bytes, as kilobytes: the answer is this number or the one below it. -/
theorem read_whole_bytes_kilobytes :
    ∃ b, read "1.001 kB".toList = .ok b ∧ 1001 ≤ b + 1 ∧ b ≤ 1001 := by
  let number : Decimal.Form :=
    ⟨['1'], some ['0', '0', '1'], none, by decide, List.all_eq_true.mp (by decide)⟩
  let f : Form :=
    ⟨number, [' '], ['k', 'B'], List.all_eq_true.mp (by decide), List.all_eq_true.mp (by decide)⟩
  have hwritten : f.written = trim "1.001 kB".toList := rfl
  have hunit : (f.unit, 1000) ∈ unitTable := by decide
  have hnumber : f.number.value * (1000 : ℕ) = (1001 : ℕ) := by
    have hwhole : Numeral.value ['1'] = 1 := by decide
    have hdecimals : Numeral.value ['0', '0', '1'] = 1 := by decide
    norm_num [f, number, Decimal.Form.value, Decimal.Form.decimals, Decimal.Form.powerValue,
      hwhole, hdecimals]
  obtain ⟨b, hread, -, hlower, -, hupper, -⟩ :=
    read_whole_bytes hwritten hunit hnumber (by norm_num)
  exact ⟨b, hread, hlower, hupper (by norm_num)⟩

/-- The byte is lost: the number is rounded down, and its product is not rounded back. -/
theorem read_loses_byte :
    split? "1.001 kB".toList = some (⟨1001, -3⟩, "kB".toList) ∧
      Decimal.toRat ⟨1001, -3⟩ * 1000 = 1001 ∧ read "1.001 kB".toList = .ok 1000 := by
  refine ⟨by decide +kernel, ?_, by decide +kernel⟩
  norm_num [Decimal.toRat]

/-- Above `2 ^ 52` a byte may be added, too. -/
example : read "879666041081963e-2 kB".toList = .ok (8796660410819630 + 1) := by
  decide +kernel

end Questionnaire.Size
