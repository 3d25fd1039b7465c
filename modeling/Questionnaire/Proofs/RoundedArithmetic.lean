import Mathlib.Algebra.Order.Floor.Semifield
import Questionnaire.Proofs.DecimalForm
import Questionnaire.Proofs.Rounding

/-!
# Arithmetic rounds exact results

Every operation on double-precision numbers forms its result exactly, as a quotient of
natural numbers, and rounds it once.  For numbers that are not negative this says which
rational number the result is: the one nearest to the exact result, or infinity if that
lies beyond the greatest numbers.

## Main definitions

* `Binary64.Represents b x` — the number is the rational `x`, or infinity in its place.

## Main results

* `Binary64.ofRatio_represents` — a quotient is rounded to the nearest number.
* `Decimal.toBinary64_represents` — so is a decimal number.
* `Binary64.Represents.mul`, `Binary64.Represents.div`, `Binary64.Represents.floor`,
  `Binary64.Represents.lt_iff` — products, quotients, whole parts and comparisons.
* `Binary64.Represents.toNatBy_roundHalfUp`, `Binary64.Represents.clampUnit_eq` — numbers
  rounded to whole ones, and held in the unit interval.
-/

namespace Questionnaire

/-! ### Powers of two -/

@[simp] theorem cast_twoTo (n : ℕ) : (twoTo n : ℚ) = 2 ^ n := by
  rw [twoTo, Nat.pow_eq, Nat.cast_pow, Nat.cast_ofNat]

@[simp] theorem cast_tenTo (n : ℕ) : (tenTo n : ℚ) = 10 ^ n := by
  rw [tenTo, Nat.pow_eq, Nat.cast_pow, Nat.cast_ofNat]

/-- A power is a quotient of powers with natural exponents. -/
theorem zpow_eq_div {a : ℚ} (ha : a ≠ 0) (e : ℤ) : a ^ e = a ^ e.toNat / a ^ (-e).toNat := by
  rw [← zpow_natCast, ← zpow_natCast, ← zpow_sub₀ ha]
  congr 1
  omega

namespace Binary64

/-- A quotient counted in steps of a power of two. -/
theorem cast_scaled (num den : ℕ) (e : ℤ) :
    ((num * twoTo (-e).toNat : ℕ) : ℚ) / (den * twoTo e.toNat : ℕ) = num / den / 2 ^ e := by
  rw [zpow_eq_div two_ne_zero e]
  push_cast
  rw [cast_twoTo, cast_twoTo, div_div_div_eq]

/-- A scaled number as a quotient of natural numbers. -/
theorem scaled_eq_div (m : ℕ) (e : ℤ) :
    (m : ℚ) * 2 ^ e = (m * twoTo e.toNat : ℕ) / (twoTo (-e).toNat : ℕ) := by
  rw [zpow_eq_div two_ne_zero e, Nat.cast_mul, cast_twoTo, cast_twoTo, mul_div_assoc]

/-- A number counted in steps of a lesser exponent. -/
theorem cast_signedAt (m : ℕ) {e base : ℤ} (h : base ≤ e) :
    (signedAt false m e base : ℚ) * 2 ^ base = m * 2 ^ e := by
  rw [signedAt, if_neg Bool.false_ne_true, Int.cast_natCast, Nat.cast_mul, cast_twoTo, mul_assoc,
    ← zpow_natCast, Int.toNat_of_nonneg (by omega), ← zpow_add₀ two_ne_zero, sub_add_cancel]

/-! ### Rounded quotients -/

theorem log_eq_of_le_of_lt {x : ℚ} {n : ℤ} (hlower : 2 ^ n ≤ x) (hupper : x < 2 ^ (n + 1)) :
    Int.log 2 x = n := by
  have hx : 0 < x := lt_of_lt_of_le (by positivity) hlower
  have hle := (Int.zpow_le_iff_le_log (b := 2) (by norm_num) hx).mp hlower
  have hlt := (Int.lt_zpow_iff_log_lt (b := 2) (by norm_num) hx).mp hupper
  omega

/-- The lengths of both sides of a quotient tell its logarithm up to one. -/
theorem two_pow_sub_lt_ratio {num den : ℕ} (hnum : 0 < num) (hden : 0 < den) :
    (2 : ℚ) ^ ((Nat.log2 num : ℤ) - Nat.log2 den - 1) ≤ num / den ∧
      (num : ℚ) / den < 2 ^ ((Nat.log2 num : ℤ) - Nat.log2 den + 1) := by
  have hpos : (0 : ℚ) < num := by exact_mod_cast hnum
  have hpos' : (0 : ℚ) < den := by exact_mod_cast hden
  have hnumLower : (2 : ℚ) ^ Nat.log2 num ≤ num := by
    exact_mod_cast Nat.log2_self_le hnum.ne'
  have hnumUpper : (num : ℚ) < 2 ^ (Nat.log2 num + 1) := by
    exact_mod_cast Nat.lt_log2_self
  have hdenLower : (2 : ℚ) ^ Nat.log2 den ≤ den := by
    exact_mod_cast Nat.log2_self_le hden.ne'
  have hdenUpper : (den : ℚ) ≤ 2 ^ (Nat.log2 den + 1) := by
    exact_mod_cast Nat.lt_log2_self.le
  constructor
  · calc (2 : ℚ) ^ ((Nat.log2 num : ℤ) - Nat.log2 den - 1)
        = 2 ^ Nat.log2 num / 2 ^ (Nat.log2 den + 1) := by
          rw [← zpow_natCast, ← zpow_natCast, ← zpow_sub₀ two_ne_zero]
          congr 1
          push_cast
          ring
      _ ≤ num / den := div_le_div₀ hpos.le hnumLower hpos' hdenUpper
  · calc (num : ℚ) / den < 2 ^ (Nat.log2 num + 1) / 2 ^ Nat.log2 den :=
          div_lt_div₀ hnumUpper hdenLower (by positivity) (by positivity)
      _ = 2 ^ ((Nat.log2 num : ℤ) - Nat.log2 den + 1) := by
          rw [← zpow_natCast, ← zpow_natCast, ← zpow_sub₀ two_ne_zero]
          congr 1
          push_cast
          ring

/-- The exponent that is found from the lengths of both sides is that of the steps. -/
theorem unitExponent_eq {num den : ℕ} (hnum : 0 < num) (hden : 0 < den) :
    unitExponent num den = stepExponent (num / den) := by
  obtain ⟨hlower, hupper⟩ := two_pow_sub_lt_ratio hnum hden
  rw [unitExponent, stepExponent]
  generalize (Nat.log2 num : ℤ) - Nat.log2 den = d at hlower hupper
  have hden' : (0 : ℚ) < (den * twoTo (d - 53).toNat : ℕ) := by
    exact_mod_cast Nat.mul_pos hden (twoTo_pos _)
  -- the test tells whether the quotient reaches the power of two between
  have htest : twoTo 53 * (den * twoTo (d - 53).toNat) ≤ num * twoTo (-(d - 53)).toNat ↔
      (2 : ℚ) ^ d ≤ num / den := by
    rw [← Nat.cast_le (α := ℚ), Nat.cast_mul (twoTo 53), ← le_div_iff₀ hden', cast_scaled,
      cast_twoTo, le_div_iff₀ (by positivity), ← zpow_natCast, ← zpow_add₀ two_ne_zero]
    norm_num
  simp only [htest, leastExponent]
  split
  · next h =>
    rw [log_eq_of_le_of_lt h hupper]
    congr 1
    omega
  · next h =>
    rw [log_eq_of_le_of_lt (n := d - 1) hlower (by rw [sub_add_cancel]; exact not_le.mp h)]
    congr 1
    omega

/-- Where the numbers end: the least power of two that has too great an exponent. -/
def beyond : ℚ := 2 ^ (greatestExponent + 53)

theorem beyond_pos : 0 < beyond := zpow_pos two_pos _

theorem beyond_eq_natCast : beyond = (2 ^ (greatestExponent + 53).toNat : ℕ) := by
  rw [beyond, Nat.cast_pow, ← zpow_natCast, Int.toNat_of_nonneg (by decide), Nat.cast_ofNat]

/-- All numbers of 64 bits are finite. -/
theorem natCast_lt_beyond {n : ℕ} (h : n ≤ 2 ^ 64) : (n : ℚ) < beyond := by
  rw [beyond_eq_natCast]
  exact Nat.cast_lt.mpr (h.trans_lt (Nat.pow_lt_pow_right one_lt_two (by decide)))

/-- The number is the rational `x`, which is not negative; if `x` is beyond the greatest
numbers it is infinite. -/
inductive Represents : Binary64 → ℚ → Prop
  /-- A finite number. -/
  | finite {m : ℕ} {e : ℤ} : m < 2 ^ 53 → -1074 ≤ e → (m : ℚ) * 2 ^ e < beyond →
      Represents (.finite false m e) (m * 2 ^ e)
  /-- Infinity in place of a number that is too great. -/
  | infinite {x : ℚ} : beyond ≤ x → Represents (.infinite false) x

theorem beyond_le_nearest {x : ℚ} (h : beyond ≤ x) : beyond ≤ nearest x :=
  le_nearest_of_exact (exact_two_zpow (by decide)) h

theorem zero_represents : Represents (zero false) 0 := by
  have hzero : ((0 : ℕ) : ℚ) * 2 ^ (-1074 : ℤ) = 0 := by simp
  rw [← hzero]
  exact .finite (by decide) le_rfl (hzero ▸ beyond_pos)

/-- A significand below `2 ^ 53` and an exponent make up the number, unless the exponent is
too great. -/
theorem represents_of_lt {m : ℕ} {e : ℤ} (hm : m < 2 ^ 53) (he : -1074 ≤ e)
    (hfull : -1074 < e → 2 ^ 52 ≤ m) :
    Represents (if greatestExponent < e then .infinite false else .finite false m e)
      (m * 2 ^ e) := by
  split
  · next hgreat =>
    refine .infinite ?_
    have hm' : (2 : ℚ) ^ 52 ≤ m := by
      exact_mod_cast hfull (lt_trans (by decide) hgreat)
    calc beyond = 2 ^ 52 * 2 ^ (greatestExponent + 1) := by
          rw [beyond, ← zpow_natCast, ← zpow_add₀ two_ne_zero]
          congr 1
      _ ≤ m * 2 ^ e :=
          mul_le_mul hm' (zpow_le_zpow_right₀ one_le_two hgreat) (by positivity)
            (Nat.cast_nonneg m)
  · next hgreat =>
    refine .finite hm he ?_
    have hm' : (m : ℚ) < 2 ^ 53 := by exact_mod_cast hm
    calc (m : ℚ) * 2 ^ e < 2 ^ 53 * 2 ^ e := mul_lt_mul_of_pos_right hm' (by positivity)
      _ ≤ 2 ^ 53 * 2 ^ greatestExponent :=
          mul_le_mul_of_nonneg_left (zpow_le_zpow_right₀ one_le_two (not_lt.mp hgreat))
            (by positivity)
      _ = beyond := by
          rw [beyond, ← zpow_natCast, ← zpow_add₀ two_ne_zero]
          congr 1

theorem ofSignificand_represents {m : ℕ} {e : ℤ} (hm : m ≤ 2 ^ 53) (he : -1074 ≤ e)
    (hfull : -1074 < e → 2 ^ 52 ≤ m) : Represents (ofSignificand false m e) (m * 2 ^ e) := by
  rw [ofSignificand]
  by_cases h : m = twoTo 53
  · -- the significand moves into the exponent
    have hvalue : ((twoTo 52 : ℕ) : ℚ) * 2 ^ (e + 1) = m * 2 ^ e := by
      rw [h, twoTo_succ 52, zpow_add_one₀ two_ne_zero, Nat.cast_mul, Nat.cast_ofNat]
      ring
    rw [if_pos h, ← hvalue]
    exact represents_of_lt (by decide) (by omega) fun _ => le_rfl
  · rw [if_neg h]
    exact represents_of_lt (lt_of_le_of_ne hm h) he hfull

/-- **A quotient is rounded to the nearest number.** -/
theorem ofRatio_represents (num : ℕ) {den : ℕ} (hden : 0 < den) :
    Represents (ofRatio false num den) (nearest (num / den)) := by
  rcases Nat.eq_zero_or_pos num with rfl | hnum
  · rw [ofRatio, if_pos rfl, Nat.cast_zero, zero_div, nearest_zero]
    exact zero_represents
  · have hx : (0 : ℚ) < num / den := by positivity
    rw [ofRatio, if_neg hnum.ne', unitExponent_eq hnum hden, nearest, spacing, ← cast_scaled,
      halfEven_div _ (Nat.mul_pos hden (twoTo_pos _))]
    refine ofSignificand_represents ?_ (stepExponent_ge _) fun h => ?_
    · rw [← halfEven_div _ (Nat.mul_pos hden (twoTo_pos _)), cast_scaled]
      exact halfEven_div_spacing_le hx.le
    · rw [← halfEven_div _ (Nat.mul_pos hden (twoTo_pos _)), cast_scaled]
      exact le_halfEven_div_spacing hx h

theorem ofScaled_represents (m : ℕ) (e : ℤ) :
    Represents (ofScaled false m e) (nearest (m * 2 ^ e)) := by
  rw [scaled_eq_div]
  exact ofRatio_represents (m * twoTo e.toNat) (twoTo_pos (-e).toNat)

theorem ofNat_represents (n : ℕ) : Represents (ofNat n) (nearest n) := by
  have h := ofRatio_represents n one_pos
  rwa [Nat.cast_one, div_one] at h

theorem ofNat_represents_of_exact {n : ℕ} (h : Exact n) : Represents (ofNat n) n := by
  have hn := ofNat_represents n
  rwa [nearest_of_exact h] at hn

/-! ### Operations -/

namespace Represents

variable {b c : Binary64} {x y : ℚ}

/-- The rounded product; the second factor is at least one, so an infinite factor does not
meet a zero. -/
theorem mul (hb : Represents b x) (hc : Represents c y) (hy : 1 ≤ y) (hfinite : y < beyond) :
    Represents (b.mul c) (nearest (x * y)) := by
  cases hc with
  | infinite h => exact absurd hfinite (not_lt.mpr h)
  | @finite n f hn hf _ =>
    cases hb with
    | @finite m e =>
      have h := ofScaled_represents (m * n) (e + f)
      have hvalue : ((m * n : ℕ) : ℚ) * 2 ^ (e + f) = m * 2 ^ e * (n * 2 ^ f) := by
        rw [zpow_add₀ two_ne_zero]
        push_cast
        ring
      rwa [hvalue] at h
    | infinite h =>
      have hn : n ≠ 0 := by
        rintro rfl
        rw [Nat.cast_zero, zero_mul] at hy
        exact absurd hy (by norm_num)
      rw [Binary64.mul, if_neg hn]
      exact .infinite (beyond_le_nearest
        (h.trans (le_mul_of_one_le_right (beyond_pos.le.trans h) hy)))

/-- The rounded quotient. -/
theorem div (hb : Represents b x) (hc : Represents c y) (hpos : 0 < y) (hx : x < beyond)
    (hy : y < beyond) : Represents (b.div c) (nearest (x / y)) := by
  cases hb with
  | infinite h => exact absurd hx (not_lt.mpr h)
  | @finite m e =>
    cases hc with
    | infinite h => exact absurd hy (not_lt.mpr h)
    | @finite n f =>
      have hn : 0 < n := Nat.pos_of_ne_zero fun h => by simp [h] at hpos
      have hden : 0 < n * twoTo (f - e).toNat := Nat.mul_pos hn (twoTo_pos _)
      have h := ofRatio_represents (m * twoTo (e - f).toNat) hden
      have hvalue : ((m * twoTo (e - f).toNat : ℕ) : ℚ) / (n * twoTo (f - e).toNat : ℕ) =
          m * 2 ^ e / (n * 2 ^ f) := by
        rw [← neg_sub e f, mul_div_mul_comm, ← zpow_sub₀ two_ne_zero,
          zpow_eq_div two_ne_zero (e - f), Nat.cast_mul, Nat.cast_mul, cast_twoTo, cast_twoTo,
          mul_div_mul_comm]
      rw [hvalue] at h
      rw [Binary64.div, if_neg hn.ne']
      exact h

/-- The whole part is exact. -/
theorem floor (hb : Represents b x) : Represents b.floor ⌊x⌋₊ := by
  cases hb with
  | infinite h =>
    refine .infinite ?_
    rw [beyond_eq_natCast] at h ⊢
    exact Nat.cast_le.mpr (Nat.le_floor h)
  | @finite m e hm he _ =>
    have hwhole : ⌊(m : ℚ) * 2 ^ e⌋₊ = m * twoTo e.toNat / twoTo (-e).toNat := by
      rw [scaled_eq_div, Nat.floor_div_eq_div]
    have hexact : Exact (⌊(m : ℚ) * 2 ^ e⌋₊ : ℕ) := by
      rcases le_or_gt 0 e with h | h
      · -- the number is whole itself
        refine ⟨m, e, hm.le, he, ?_⟩
        rw [hwhole, show (-e).toNat = 0 by omega, twoTo_zero, Nat.div_one, Nat.cast_mul, cast_twoTo,
          ← zpow_natCast, Int.toNat_of_nonneg h]
      · -- the whole part is no greater than the significand
        refine exact_natCast ?_
        rw [hwhole, show e.toNat = 0 by omega, twoTo_zero, Nat.mul_one]
        exact (Nat.div_le_self _ _).trans hm.le
    have h := ofNat_represents_of_exact hexact
    rwa [Binary64.floor, Bool.false_and, if_neg Bool.false_ne_true, ← hwhole]

/-- Numbers are compared as what they represent. -/
theorem lt_iff (hb : Represents b x) (hc : Represents c y) (hfinite : x < beyond) :
    lt b c = true ↔ x < y := by
  cases hb with
  | infinite h => exact absurd hfinite (not_lt.mpr h)
  | @finite m e =>
    cases hc with
    | infinite h => exact iff_of_true rfl (hfinite.trans_le h)
    | @finite n f =>
      rw [Binary64.lt, decide_eq_true_eq, ← cast_signedAt m (min_le_left e f),
        ← cast_signedAt n (min_le_right e f), mul_lt_mul_iff_left₀ (zpow_pos two_pos _),
        Int.cast_lt]

/-- Cutting a number gives its whole part. -/
theorem toNatBy_div (hb : Represents b x) (hfinite : x < beyond) :
    toNatBy (· / ·) b = ⌊x⌋₊ := by
  cases hb with
  | infinite h => exact absurd hfinite (not_lt.mpr h)
  | @finite m e => rw [toNatBy, scaled_eq_div, Nat.floor_div_eq_div]

/-- Rounding a number, a half going up, gives the whole part of a half more. -/
theorem toNatBy_roundHalfUp (hb : Represents b x) (hfinite : x < beyond) :
    toNatBy roundHalfUp b = ⌊x + 1 / 2⌋₊ := by
  cases hb with
  | infinite h => exact absurd hfinite (not_lt.mpr h)
  | @finite m e =>
    have hden : ((twoTo (-e).toNat : ℕ) : ℚ) ≠ 0 := Nat.cast_ne_zero.mpr (twoTo_pos _).ne'
    have hvalue : (m : ℚ) * 2 ^ e + 1 / 2 =
        (2 * (m * twoTo e.toNat) + twoTo (-e).toNat : ℕ) / (2 * twoTo (-e).toNat : ℕ) := by
      rw [scaled_eq_div, div_add_div _ _ hden two_ne_zero]
      push_cast
      congr 1 <;> ring
    rw [toNatBy, roundHalfUp, hvalue, Nat.floor_div_eq_div]

theorem nonneg (hb : Represents b x) : 0 ≤ x := by
  cases hb with
  | finite => exact mul_nonneg (Nat.cast_nonneg _) (zpow_nonneg two_pos.le _)
  | infinite h => exact beyond_pos.le.trans h

/-- A number of the unit interval is held where it is. -/
theorem clampUnit_eq (hb : Represents b x) (hone : x ≤ 1) : b.clampUnit = b := by
  have hunit := ofNat_represents_of_exact (exact_natCast (n := 1) (by norm_num))
  have hfinite : ((1 : ℕ) : ℚ) < beyond := natCast_lt_beyond (by norm_num)
  rw [Nat.cast_one] at hunit hfinite
  have hlower : ¬ lt b (zero false) = true := by
    rw [hb.lt_iff zero_represents (hone.trans_lt hfinite)]
    exact not_lt.mpr hb.nonneg
  have hupper : ¬ lt (ofNat 1) b = true := by
    rw [hunit.lt_iff hb hfinite]
    exact not_lt.mpr hone
  rw [clampUnit, if_neg hlower, if_neg hupper]

end Represents

end Binary64

/-! ### Decimal numbers -/

namespace Decimal

open Binary64

/-- Three binary digits are less than a decimal one. -/
theorem two_zpow_le_ten_zpow : (2 : ℚ) ^ (1200 : ℤ) ≤ 10 ^ (400 : ℤ) := by
  calc (2 : ℚ) ^ (1200 : ℤ) = (2 ^ (3 : ℤ)) ^ (400 : ℤ) := by rw [← zpow_mul]; rfl
    _ ≤ 10 ^ (400 : ℤ) := zpow_le_zpow_left₀ (by decide) (by positivity) (by norm_num)

/-- From the four hundredth power of ten on, numbers are too great. -/
theorem beyond_le_toRat {d : Decimal} (hzero : d.coefficient ≠ 0) (h : 400 ≤ d.exponent) :
    beyond ≤ d.toRat := by
  have hone : (1 : ℚ) ≤ d.coefficient := by exact_mod_cast Nat.one_le_iff_ne_zero.mpr hzero
  calc beyond ≤ (2 : ℚ) ^ (1200 : ℤ) := zpow_le_zpow_right₀ one_le_two (by decide)
    _ ≤ 10 ^ (400 : ℤ) := two_zpow_le_ten_zpow
    _ ≤ 10 ^ d.exponent := zpow_le_zpow_right₀ (by norm_num) h
    _ ≤ d.toRat := le_mul_of_one_le_left (by positivity) hone

/-- Numbers below the four hundredth negative power of ten are too small. -/
theorem toRat_le {d : Decimal} (h : (Nat.log2 d.coefficient : ℤ) + 1 + d.exponent ≤ -400) :
    d.toRat ≤ 2 ^ (-1075 : ℤ) := by
  have hlog : (d.coefficient : ℚ) ≤ 2 ^ (Nat.log2 d.coefficient + 1) := by
    exact_mod_cast Nat.lt_log2_self.le
  have hcoefficient : (d.coefficient : ℚ) ≤ 10 ^ ((Nat.log2 d.coefficient : ℤ) + 1) :=
    hlog.trans (by exact_mod_cast Nat.pow_le_pow_left (by decide) _)
  calc d.toRat ≤ 10 ^ ((Nat.log2 d.coefficient : ℤ) + 1) * 10 ^ d.exponent :=
        mul_le_mul_of_nonneg_right hcoefficient (by positivity)
    _ = 10 ^ ((Nat.log2 d.coefficient : ℤ) + 1 + d.exponent) :=
        (zpow_add₀ (by norm_num) _ _).symm
    _ ≤ 10 ^ (-400 : ℤ) := zpow_le_zpow_right₀ (by norm_num) h
    _ ≤ 2 ^ (-1200 : ℤ) := by
        rw [zpow_neg, zpow_neg]
        exact inv_anti₀ (by positivity) two_zpow_le_ten_zpow
    _ ≤ 2 ^ (-1075 : ℤ) := zpow_le_zpow_right₀ one_le_two (by decide)

/-- **A decimal number is rounded to the nearest number.** -/
theorem toBinary64_represents (d : Decimal) :
    Represents (d.toBinary64 false) (nearest d.toRat) := by
  rw [toBinary64]
  split
  · next h =>
    rw [toRat, h, Nat.cast_zero, zero_mul, nearest_zero]
    exact zero_represents
  split
  · next hzero h => exact .infinite (beyond_le_nearest (beyond_le_toRat hzero h))
  split
  · next h =>
    rw [nearest_eq_zero d.toRat_nonneg (toRat_le h)]
    exact zero_represents
  · have hvalue : ((d.coefficient * tenTo d.exponent.toNat : ℕ) : ℚ) /
        (tenTo (-d.exponent).toNat : ℕ) = d.toRat := by
      rw [toRat, zpow_eq_div (by norm_num) d.exponent, Nat.cast_mul, cast_tenTo, cast_tenTo,
        mul_div_assoc]
    rw [← hvalue]
    exact ofRatio_represents _ (tenTo_pos _)

end Decimal

end Questionnaire
