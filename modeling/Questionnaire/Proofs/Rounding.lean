import Mathlib.Algebra.Order.Field.Power
import Mathlib.Data.Int.Log
import Mathlib.Data.Rat.Cast.Order
import Mathlib.Data.Rat.Floor
import Mathlib.Tactic.FieldSimp
import Mathlib.Tactic.GCongr
import Mathlib.Tactic.Linarith
import Mathlib.Tactic.NormNum
import Mathlib.Tactic.Positivity
import Mathlib.Tactic.Ring
import Questionnaire.Number.Binary64

/-!
# Rounding

Double-precision numbers lie at a distance that doubles with every power of two.  A
rational number is rounded by counting it in steps of the distance at its place, and
rounding the count to a natural number.  Rounding keeps the order, leaves numbers that
are exact where they are, and errs by at most half a step.

## Main definitions

* `RoundsTo x n` — `n` is nearest to `x` among the natural numbers, and even in a tie.
* `halfEven` — the natural number that a rational number is rounded to.
* `Binary64.spacing x` — the distance of neighbouring numbers at `x`.
* `Binary64.nearest x` — the number nearest to `x`, without a bound on the exponent.
* `Binary64.Exact x` — `x` has a significand of 53 bits.

## Main results

* `RoundsTo.mono` — rounding to natural numbers keeps the order, ties included.
* `Binary64.nearest_mono`, `Binary64.nearest_of_exact`, `Binary64.abs_nearest_sub_le` —
  **rounding keeps the order, leaves exact numbers, and errs by half a step.**
-/

namespace Questionnaire

/-! ### Natural numbers -/

/-- The natural number nearest to a rational one; of two that are equally near, the even
one. -/
structure RoundsTo (x : ℚ) (n : ℕ) : Prop where
  /-- The number lies at most a half below. -/
  le_add : x ≤ n + 1 / 2
  /-- The number lies at most a half above. -/
  le_sub : n ≤ x + 1 / 2
  /-- A tie goes to the even number. -/
  even : x = n + 1 / 2 ∨ n = x + 1 / 2 → Even n

/-- Rounding keeps the order. -/
theorem RoundsTo.mono {x y : ℚ} {m n : ℕ} (hm : RoundsTo x m) (hn : RoundsTo y n)
    (h : x ≤ y) : m ≤ n := by
  by_contra hlt
  obtain ⟨k, rfl⟩ := Nat.exists_eq_add_of_lt (Nat.lt_of_not_le hlt)
  have hupper := hm.le_sub
  have hlower := hn.le_add
  push_cast at hupper
  -- both are ties, between neighbours of which only one is even
  have hk : (k : ℚ) ≤ 0 := by linarith
  obtain rfl : k = 0 := by exact_mod_cast Nat.le_zero.mp (by exact_mod_cast hk)
  have hy : y = n + 1 / 2 := by
    push_cast at hupper
    linarith
  have hx : ((n + 0 + 1 : ℕ) : ℚ) = x + 1 / 2 := by
    push_cast at hupper ⊢
    linarith
  have hodd := hm.even (Or.inr hx)
  have heven := hn.even (Or.inl hy)
  rw [Nat.add_zero, Nat.even_add_one] at hodd
  exact hodd heven

theorem RoundsTo.unique {x : ℚ} {m n : ℕ} (hm : RoundsTo x m) (hn : RoundsTo x n) : m = n :=
  Nat.le_antisymm (hm.mono hn le_rfl) (hn.mono hm le_rfl)

theorem roundsTo_natCast (n : ℕ) : RoundsTo n n := by
  refine ⟨by norm_num, by norm_num, ?_⟩
  rintro (h | h) <;> linarith

/-- Less than a half away there is no tie. -/
theorem roundsTo_of_abs_sub_lt {x : ℚ} {n : ℕ} (h : |x - n| < 1 / 2) : RoundsTo x n := by
  obtain ⟨hlower, hupper⟩ := abs_sub_lt_iff.mp h
  refine ⟨by linarith, by linarith, fun heq => ?_⟩
  exfalso
  rcases heq with heq | heq <;> linarith

/-- A quotient is rounded to the nearest natural number. -/
theorem roundsTo_roundHalfEven (num : ℕ) {den : ℕ} (hden : 0 < den) :
    RoundsTo (num / den) (roundHalfEven num den) := by
  have hpos : (0 : ℚ) < den := by exact_mod_cast hden
  have hvalue : (num : ℚ) / den = (num / den : ℕ) + (num % den : ℕ) / den := by
    conv => lhs; rw [← Nat.div_add_mod num den]
    push_cast
    field_simp
  -- the remainder decides, against half of the divisor
  have hnonneg : (0 : ℚ) ≤ (num % den : ℕ) / den := by positivity
  have hltOne : ((num % den : ℕ) : ℚ) / den < 1 :=
    (div_lt_one hpos).mpr (by exact_mod_cast Nat.mod_lt num hden)
  have hgreater : den < 2 * (num % den) ↔ 1 / 2 < ((num % den : ℕ) : ℚ) / den := by
    rw [div_lt_div_iff₀ two_pos hpos, one_mul, mul_comm _ (2 : ℚ)]
    norm_cast
  have htie : 2 * (num % den) = den ↔ ((num % den : ℕ) : ℚ) / den = 1 / 2 := by
    rw [div_eq_div_iff hpos.ne' two_ne_zero, one_mul, mul_comm _ (2 : ℚ)]
    norm_cast
  rw [roundHalfEven, hvalue]
  generalize num / den = q, ((num % den : ℕ) : ℚ) / den = f at hnonneg hltOne hgreater htie ⊢
  simp only [Bool.or_eq_true, decide_eq_true_eq, Bool.and_eq_true, beq_iff_eq, hgreater, htie]
  split
  · next h =>
    have hhalf : 1 / 2 ≤ f := by
      rcases h with h | h
      · exact h.le
      · exact h.1.ge
    refine ⟨?_, ?_, ?_⟩
    · push_cast
      linarith
    · push_cast
      linarith
    · intro heq
      have hf : f = 1 / 2 := by
        push_cast at heq
        rcases heq with heq | heq <;> linarith
      rcases h with h | h
      · exact absurd hf h.ne'
      · exact (Nat.odd_iff.mpr h.2).add_one
  · next h =>
    rw [not_or, not_lt] at h
    refine ⟨by linarith, by linarith, fun heq => ?_⟩
    have hf : f = 1 / 2 := by
      rcases heq with heq | heq <;> linarith
    exact Nat.not_odd_iff_even.mp fun hodd => h.2 ⟨hf, Nat.odd_iff.mp hodd⟩

/-- The natural number that a rational number is rounded to, negative ones counting as
zero. -/
def halfEven (x : ℚ) : ℕ := roundHalfEven x.num.toNat x.den

theorem roundsTo_halfEven {x : ℚ} (hx : 0 ≤ x) : RoundsTo x (halfEven x) := by
  have h := roundsTo_roundHalfEven x.num.toNat x.den_pos
  have hnum : ((x.num.toNat : ℕ) : ℚ) = x.num := by
    exact_mod_cast Int.toNat_of_nonneg (Rat.num_nonneg.mpr hx)
  rwa [hnum, Rat.num_div_den] at h

theorem halfEven_div (num : ℕ) {den : ℕ} (hden : 0 < den) :
    halfEven (num / den) = roundHalfEven num den :=
  (roundsTo_halfEven (by positivity)).unique (roundsTo_roundHalfEven num hden)

theorem halfEven_natCast (n : ℕ) : halfEven n = n :=
  (roundsTo_halfEven (by positivity)).unique (roundsTo_natCast n)

theorem halfEven_mono {x y : ℚ} (hx : 0 ≤ x) (h : x ≤ y) : halfEven x ≤ halfEven y :=
  (roundsTo_halfEven hx).mono (roundsTo_halfEven (hx.trans h)) h

theorem halfEven_le {x : ℚ} {n : ℕ} (hx : 0 ≤ x) (h : x ≤ n) : halfEven x ≤ n := by
  rw [← halfEven_natCast n]
  exact halfEven_mono hx h

theorem le_halfEven {x : ℚ} {n : ℕ} (h : n ≤ x) : n ≤ halfEven x := by
  rw [← halfEven_natCast n]
  exact halfEven_mono (Nat.cast_nonneg n) h

namespace Binary64

/-! ### Double precision -/

/-- The power of two of the step at a place: a place between two powers of two has
`2 ^ 52` steps, and there is a least step. -/
def stepExponent (x : ℚ) : ℤ := max (Int.log 2 x - 52) (-1074)

/-- The distance of neighbouring numbers at a place. -/
def spacing (x : ℚ) : ℚ := 2 ^ stepExponent x

/-- The number nearest to a rational one that is not negative, of two that are equally
near the one with an even count of steps; as if there were no greatest exponent. -/
def nearest (x : ℚ) : ℚ := halfEven (x / spacing x) * spacing x

/-- A number with a significand of 53 bits and no exponent below the least one. -/
def Exact (x : ℚ) : Prop := ∃ (m : ℕ) (e : ℤ), m ≤ 2 ^ 53 ∧ -1074 ≤ e ∧ x = m * 2 ^ e

variable {x y : ℚ}

theorem exact_natCast {n : ℕ} (h : n ≤ 2 ^ 53) : Exact n :=
  ⟨n, 0, h, by norm_num, by rw [zpow_zero, mul_one]⟩

theorem exact_two_zpow {e : ℤ} (he : -1074 ≤ e) : Exact (2 ^ e) :=
  ⟨1, e, by norm_num, he, by rw [Nat.cast_one, one_mul]⟩

theorem Exact.nonneg (h : Exact x) : 0 ≤ x := by
  obtain ⟨m, e, -, -, rfl⟩ := h
  positivity

theorem spacing_pos (x : ℚ) : 0 < spacing x := by
  unfold spacing
  positivity

theorem nearest_nonneg (x : ℚ) : 0 ≤ nearest x :=
  mul_nonneg (Nat.cast_nonneg _) (spacing_pos x).le

theorem stepExponent_ge (x : ℚ) : -1074 ≤ stepExponent x := le_max_right _ _

/-- Less than `2 ^ 53` steps lead to a number. -/
theorem div_spacing_lt (x : ℚ) : x / spacing x < 2 ^ 53 := by
  have hlog : x < 2 ^ (Int.log 2 x + 1) := Int.lt_zpow_succ_log_self (by norm_num) x
  rw [div_lt_iff₀ (spacing_pos x), spacing, ← zpow_natCast, ← zpow_add₀ two_ne_zero]
  refine hlog.trans_le (zpow_le_zpow_right₀ one_le_two ?_)
  have := le_max_left (Int.log 2 x - 52) (-1074)
  unfold stepExponent
  push_cast
  omega

/-- At least `2 ^ 52` steps lead to a number, unless the steps are the least ones. -/
theorem le_div_spacing (hx : 0 < x) (h : -1074 < stepExponent x) :
    2 ^ 52 ≤ x / spacing x := by
  have hlog : (2 : ℚ) ^ Int.log 2 x ≤ x := Int.zpow_log_le_self (by norm_num) hx
  rw [le_div_iff₀ (spacing_pos x), spacing, ← zpow_natCast, ← zpow_add₀ two_ne_zero]
  refine le_trans (zpow_le_zpow_right₀ one_le_two ?_) hlog
  unfold stepExponent at h ⊢
  push_cast
  omega

theorem halfEven_div_spacing_le (hx : 0 ≤ x) : halfEven (x / spacing x) ≤ 2 ^ 53 := by
  refine halfEven_le (div_nonneg hx (spacing_pos x).le) ?_
  exact_mod_cast (div_spacing_lt x).le

theorem le_halfEven_div_spacing (hx : 0 < x) (h : -1074 < stepExponent x) :
    2 ^ 52 ≤ halfEven (x / spacing x) := by
  refine le_halfEven ?_
  exact_mod_cast le_div_spacing hx h

theorem stepExponent_mono (hx : 0 < x) (h : x ≤ y) : stepExponent x ≤ stepExponent y := by
  have := Int.log_mono_right (b := 2) hx h
  unfold stepExponent
  omega

@[simp] theorem nearest_zero : nearest 0 = 0 := by
  rw [nearest, zero_div, ← Nat.cast_zero, halfEven_natCast, Nat.cast_zero, zero_mul]

/-- Half of a least step is rounded to zero. -/
theorem nearest_eq_zero (hx : 0 ≤ x) (h : x ≤ 2 ^ (-1075 : ℤ)) : nearest x = 0 := by
  have hle : x / spacing x ≤ 1 / 2 := by
    rw [div_le_iff₀ (spacing_pos x)]
    calc x ≤ 1 / 2 * 2 ^ (-1074 : ℤ) := by
          rwa [one_div, ← zpow_neg_one, ← zpow_add₀ two_ne_zero]
      _ ≤ 1 / 2 * spacing x :=
          mul_le_mul_of_nonneg_left (zpow_le_zpow_right₀ one_le_two (stepExponent_ge x))
            (by norm_num)
  have hzero : RoundsTo (x / spacing x) 0 := by
    have hnonneg := div_nonneg hx (spacing_pos x).le
    refine ⟨by rw [Nat.cast_zero]; linarith, by rw [Nat.cast_zero]; linarith, fun _ => Even.zero⟩
  rw [nearest, (roundsTo_halfEven (div_nonneg hx (spacing_pos x).le)).unique hzero, Nat.cast_zero,
    zero_mul]

/-- Rounding gives exact numbers. -/
theorem exact_nearest (hx : 0 ≤ x) : Exact (nearest x) :=
  ⟨_, _, halfEven_div_spacing_le hx, stepExponent_ge x, rfl⟩

/-- **Rounding keeps the order.** -/
theorem nearest_mono (hx : 0 ≤ x) (h : x ≤ y) : nearest x ≤ nearest y := by
  rcases hx.eq_or_lt with rfl | hpos
  · rw [nearest_zero]
    exact nearest_nonneg y
  rcases (stepExponent_mono hpos h).eq_or_lt with hstep | hstep
  · -- the steps are the same
    have hspacing : spacing x = spacing y := congrArg ((2 : ℚ) ^ ·) hstep
    rw [nearest, nearest, hspacing]
    refine mul_le_mul_of_nonneg_right ?_ (spacing_pos y).le
    exact_mod_cast halfEven_mono (div_nonneg hx (spacing_pos y).le)
      (div_le_div_of_nonneg_right h (spacing_pos y).le)
  · -- a power of two lies between
    have hcount : (halfEven (x / spacing x) : ℚ) ≤ 2 ^ 53 := by
      exact_mod_cast halfEven_div_spacing_le hx
    have hcount' : (2 : ℚ) ^ 52 ≤ halfEven (y / spacing y) := by
      exact_mod_cast le_halfEven_div_spacing (hpos.trans_le h)
        ((stepExponent_ge x).trans_lt hstep)
    calc nearest x ≤ 2 ^ 53 * spacing x := mul_le_mul_of_nonneg_right hcount (spacing_pos x).le
      _ = 2 ^ 52 * 2 ^ (stepExponent x + 1) := by
        rw [spacing, zpow_add_one₀ two_ne_zero]
        ring
      _ ≤ 2 ^ 52 * spacing y := by
        refine mul_le_mul_of_nonneg_left ?_ (by positivity)
        exact zpow_le_zpow_right₀ one_le_two (by omega)
      _ ≤ nearest y := mul_le_mul_of_nonneg_right hcount' (spacing_pos y).le

/-- An exact number has a significand below `2 ^ 53`. -/
theorem Exact.exists_lt (h : Exact x) :
    ∃ (m : ℕ) (e : ℤ), m < 2 ^ 53 ∧ -1074 ≤ e ∧ x = m * 2 ^ e := by
  obtain ⟨m, e, hm, he, rfl⟩ := h
  rcases hm.eq_or_lt with rfl | hlt
  · refine ⟨2 ^ 52, e + 1, by norm_num, by omega, ?_⟩
    rw [zpow_add_one₀ two_ne_zero]
    push_cast
    ring
  · exact ⟨m, e, hlt, he, rfl⟩

/-- Steps that are no greater than its last digit lead to a number. -/
theorem exists_count (x : ℚ) (m : ℕ) {e : ℤ} (h : stepExponent x ≤ e) :
    ∃ n : ℕ, (m : ℚ) * 2 ^ e = n * spacing x := by
  refine ⟨m * 2 ^ (e - stepExponent x).toNat, ?_⟩
  push_cast
  rw [spacing, mul_assoc, ← zpow_natCast, ← zpow_add₀ two_ne_zero,
    Int.toNat_of_nonneg (by omega), sub_add_cancel]

/-- A number less than half a step away from a count of steps is rounded to it. -/
theorem nearest_eq_of_count (hx : 0 ≤ x) {n : ℕ} (h : |x - n * spacing x| < spacing x / 2) :
    nearest x = n * spacing x := by
  have hs := spacing_pos x
  have hround : |x / spacing x - n| < 1 / 2 := by
    rw [← mul_lt_mul_iff_left₀ hs, ← abs_of_pos hs, ← abs_mul, abs_of_pos hs, sub_mul,
      div_mul_cancel₀ _ hs.ne', one_div_mul_eq_div]
    exact h
  rw [nearest, (roundsTo_halfEven (div_nonneg hx hs.le)).unique (roundsTo_of_abs_sub_lt hround)]

/-- **Rounding leaves exact numbers.** -/
theorem nearest_of_exact (h : Exact x) : nearest x = x := by
  obtain ⟨m, e, hm, he, hvalue⟩ := h.exists_lt
  rcases Nat.eq_zero_or_pos m with rfl | hpos
  · rw [hvalue, Nat.cast_zero, zero_mul, nearest_zero]
  have hx : 0 < x := by
    rw [hvalue]
    positivity
  have hlt : x < 2 ^ (e + 53) := by
    rw [hvalue, zpow_add₀ two_ne_zero, mul_comm]
    refine mul_lt_mul_of_pos_left ?_ (by positivity)
    exact_mod_cast hm
  have hlog : Int.log 2 x < e + 53 := (Int.lt_zpow_iff_log_lt (by norm_num) hx).mp hlt
  -- the number is a whole count of steps
  obtain ⟨n, hn⟩ := exists_count x m (max_le (by omega) he : stepExponent x ≤ e)
  have hcount : x = n * spacing x := hvalue.trans hn
  have hzero : |x - n * spacing x| < spacing x / 2 := by
    rw [← hcount, sub_self, abs_zero]
    exact half_pos (spacing_pos x)
  exact (nearest_eq_of_count hx.le hzero).trans hcount.symm

theorem nearest_le_of_exact (hx : 0 ≤ x) (hy : Exact y) (h : x ≤ y) : nearest x ≤ y := by
  have hround := nearest_mono hx h
  rwa [nearest_of_exact hy] at hround

theorem le_nearest_of_exact (hx : Exact x) (h : x ≤ y) : x ≤ nearest y := by
  have hround := nearest_mono hx.nonneg h
  rwa [nearest_of_exact hx] at hround

/-- **Rounding errs by at most half a step.** -/
theorem abs_nearest_sub_le (hx : 0 ≤ x) : |nearest x - x| ≤ spacing x / 2 := by
  have hpos := spacing_pos x
  have hround := roundsTo_halfEven (div_nonneg hx hpos.le)
  have hcount : x / spacing x * spacing x = x := div_mul_cancel₀ _ hpos.ne'
  have hlower := mul_le_mul_of_nonneg_right hround.le_add hpos.le
  have hupper := mul_le_mul_of_nonneg_right hround.le_sub hpos.le
  rw [hcount] at hlower
  rw [add_mul, hcount] at hupper
  rw [abs_le, nearest]
  constructor <;> linarith

/-- Below a power of two the steps are known, and so is the error. -/
theorem nearest_le_add (hx : 0 ≤ x) {n : ℤ} (hn : -1021 ≤ n) (h : x < 2 ^ n) :
    nearest x ≤ x + 2 ^ (n - 54) := by
  rcases hx.eq_or_lt with rfl | hpos
  · rw [nearest_zero, zero_add]
    positivity
  have hlog : Int.log 2 x < n := (Int.lt_zpow_iff_log_lt (by norm_num) hpos).mp h
  have hspacing : spacing x ≤ 2 ^ (n - 53) :=
    zpow_le_zpow_right₀ one_le_two (max_le (by omega) (by omega))
  have herror := (abs_le.mp (abs_nearest_sub_le hx)).2
  calc nearest x ≤ x + spacing x / 2 := by linarith
    _ ≤ x + 2 ^ (n - 53) / 2 := by gcongr
    _ = x + 2 ^ (n - 54) := by
      rw [div_eq_mul_inv, ← zpow_sub_one₀ two_ne_zero]
      congr 2
      omega

/-- A step is at most the `2 ^ 52`-th part of a number of full precision. -/
theorem spacing_le (hx : 2 ^ (-1022 : ℤ) ≤ x) : 2 ^ 52 * spacing x ≤ x := by
  have hpos : 0 < x := lt_of_lt_of_le (by positivity) hx
  have hlog : -1022 ≤ Int.log 2 x := (Int.zpow_le_iff_le_log (by norm_num) hpos).mp hx
  refine le_trans (le_of_eq ?_) (Int.zpow_log_le_self (b := 2) (by norm_num) hpos)
  rw [spacing, stepExponent, max_eq_left (by omega), ← zpow_natCast, ← zpow_add₀ two_ne_zero]
  congr 1
  push_cast
  omega

/-- The error is less than the `2 ^ 53`-th part of a number of full precision. -/
theorem abs_nearest_sub_lt (hx : 2 ^ (-1022 : ℤ) ≤ x) : |nearest x - x| < x / 2 ^ 53 := by
  have hpos : 0 < x := lt_of_lt_of_le (by positivity) hx
  rcases (spacing_le hx).eq_or_lt with heq | hlt
  · -- a power of two is exact
    have hexact : Exact x := ⟨2 ^ 52, stepExponent x, by norm_num, stepExponent_ge x, by
      rw [← spacing]
      exact_mod_cast heq.symm⟩
    rw [nearest_of_exact hexact, sub_self, abs_zero]
    positivity
  · refine (abs_nearest_sub_le hpos.le).trans_lt ?_
    rw [div_lt_div_iff₀ two_pos (by positivity)]
    calc spacing x * 2 ^ 53 = 2 ^ 52 * spacing x * 2 := by ring
      _ < x * 2 := mul_lt_mul_of_pos_right hlt two_pos

/-- A number closer to an exact one than its `2 ^ 54`-th part is rounded to it. -/
theorem nearest_eq_of_abs_sub_lt {z : ℚ} (hz : Exact z) (h : |x - z| < z / 2 ^ 54) :
    nearest x = z := by
  obtain ⟨m, e, hm, he, hvalue⟩ := hz.exists_lt
  obtain ⟨hlower, hupper⟩ := abs_sub_lt_iff.mp h
  have hz0 : 0 < z := by
    have := (abs_nonneg _).trans_lt h
    linarith
  have hx0 : 0 < x := by linarith
  have hs := spacing_pos x
  rcases le_or_gt (stepExponent x) e with hstep | hstep
  · -- the exact number is a whole count of steps, at most as many as lead to a number
    obtain ⟨n, hn⟩ := exists_count x m hstep
    have hcount : z = n * spacing x := hvalue.trans hn
    have hx : x < 2 ^ 53 * spacing x := (div_lt_iff₀ hs).mp (div_spacing_lt x)
    have hn : n ≤ 2 ^ 53 := by
      by_contra hlt
      have hge : ((2 ^ 53 + 1 : ℕ) : ℚ) * spacing x ≤ z := by
        rw [hcount]
        exact mul_le_mul_of_nonneg_right (by exact_mod_cast Nat.lt_of_not_le hlt) hs.le
      push_cast at hge
      linarith
    have hle : z ≤ 2 ^ 53 * spacing x := by
      rw [hcount]
      exact mul_le_mul_of_nonneg_right (by exact_mod_cast hn) hs.le
    have hclose : |x - n * spacing x| < spacing x / 2 := by
      rw [← hcount]
      linarith
    exact (nearest_eq_of_count hx0.le hclose).trans hcount.symm
  · -- below the last power of two the exact numbers are half a step away
    have hx : 2 ^ 52 * spacing x ≤ x :=
      (le_div_iff₀ hs).mp (le_div_spacing hx0 (he.trans_lt hstep))
    have hle : z ≤ (2 ^ 53 - 1) * (spacing x / 2) := by
      have hpow : (2 : ℚ) ^ e ≤ spacing x / 2 := by
        rw [spacing, div_eq_mul_inv, ← zpow_sub_one₀ two_ne_zero]
        exact zpow_le_zpow_right₀ one_le_two (by omega)
      have hm' : (m : ℚ) ≤ 2 ^ 53 - 1 := by
        rw [le_sub_iff_add_le]
        exact_mod_cast hm
      rw [hvalue]
      exact mul_le_mul hm' hpow (by positivity) (by norm_num)
    linarith

/-! ### Whole products -/

section Whole

variable {q : ℚ} {k m : ℕ} (hq : q * k = m)

include hq

theorem abs_nearest_mul_sub : |nearest q * k - m| = |nearest q - q| * k := by
  rw [← hq, ← sub_mul, abs_mul, Nat.abs_cast]

/-- If a product is whole, rounding the first factor moves it by little, unless the second
factor is great. -/
theorem abs_nearest_mul_sub_lt (hk : 1 ≤ k ∧ k ≤ 2 ^ 53) {b : ℚ} (hb : (m : ℚ) ≤ b)
    (hpos : 0 < b) : |nearest q * k - m| < b / 2 ^ 53 := by
  have hfactor : (0 : ℚ) < k := by exact_mod_cast hk.1
  rw [abs_nearest_mul_sub hq]
  rcases Nat.eq_zero_or_pos m with rfl | hm0
  · obtain rfl : q = 0 := by
      rw [Nat.cast_zero] at hq
      exact (mul_eq_zero.mp hq).resolve_right hfactor.ne'
    rw [nearest_zero, sub_zero, abs_zero, zero_mul]
    positivity
  · have hone : (1 : ℚ) ≤ q * k := by
      rw [hq]
      exact_mod_cast hm0
    -- the first factor has full precision, as the second is not great
    have hfull : (2 : ℚ) ^ (-1022 : ℤ) ≤ q := by
      have hk' : (k : ℚ) ≤ 2 ^ 53 := by exact_mod_cast hk.2
      calc (2 : ℚ) ^ (-1022 : ℤ) ≤ 2 ^ (-53 : ℤ) := zpow_le_zpow_right₀ one_le_two (by decide)
        _ = 1 / 2 ^ 53 := by rw [zpow_neg, one_div]; rfl
        _ ≤ 1 / k := one_div_le_one_div_of_le hfactor hk'
        _ ≤ q := (div_le_iff₀ hfactor).mpr hone
    calc |nearest q - q| * k < q / 2 ^ 53 * k :=
          mul_lt_mul_of_pos_right (abs_nearest_sub_lt hfull) hfactor
      _ = m / 2 ^ 53 := by rw [← hq, div_mul_eq_mul_div]
      _ ≤ b / 2 ^ 53 := div_le_div_of_nonneg_right hb (by positivity)

end Whole

end Binary64

end Questionnaire
