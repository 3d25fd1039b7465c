import Questionnaire.Number.Power

/-!
# Binary floating-point numbers of 64 bits

Double-precision numbers with exact arithmetic behind every operation: the
exact result is formed as a quotient of natural numbers and rounded once, to the
nearest representable number, ties going to the even significand.

## Main definitions

* `Binary64` — not a number, the infinities, and `± m · 2 ^ e`.
* `Binary64.ofRatio` — the number nearest to a quotient.
* `Binary64.add`, `sub`, `mul`, `div`, `lt`, `le` — arithmetic and order.
* `Binary64.floor`, `fraction`, `wrapUnit` — parts of a number.
* `Binary64.toBits`, `ofBits` — the interchange format.
-/

namespace Questionnaire

/-- The natural number nearest to `num / den`; a tie goes to the even one. -/
def roundHalfEven (num den : Nat) : Nat :=
  let q := num / den
  let r := num % den
  if den < 2 * r || (2 * r == den && q % 2 == 1) then q + 1 else q

/-- The natural number nearest to `num / den`; a tie goes to the greater one. -/
def roundHalfUp (num den : Nat) : Nat := (2 * num + den) / (2 * den)

/-- A double-precision number.  In a finite one the significand is below
`2 ^ 53`, the exponent at least `-1074`, and the significand at least `2 ^ 52`
unless the exponent is `-1074`. -/
inductive Binary64 where
  /-- The result of an operation without a value. -/
  | nan
  /-- Beyond every finite number, on one side or the other. -/
  | infinite (negative : Bool)
  /-- The number `± significand · 2 ^ exponent`; zero has two signs. -/
  | finite (negative : Bool) (significand : Nat) (exponent : Int)
deriving DecidableEq, Repr

namespace Binary64

/-! ### Rounding -/

/-- The least exponent. -/
def leastExponent : Int := -1074

/-- The greatest exponent. -/
def greatestExponent : Int := 971

/-- The zero of a sign. -/
def zero (negative : Bool) : Binary64 := .finite negative 0 leastExponent

/-- The exponent `e` that scales `num / den` into `[2 ^ 52, 2 ^ 53)`, or the
least exponent if that one is greater. -/
def unitExponent (num den : Nat) : Int :=
  let e : Int := (Nat.log2 num : Int) - (Nat.log2 den : Int) - 53
  let e := if twoTo 53 * (den * twoTo e.toNat) ≤ num * twoTo (-e).toNat then e + 1 else e
  max e leastExponent

/-- The number `± m · 2 ^ e` for a significand of at most `2 ^ 53`; beyond the
greatest exponent it is infinite. -/
def ofSignificand (negative : Bool) (m : Nat) (e : Int) : Binary64 :=
  let (m, e) := if m = twoTo 53 then (twoTo 52, e + 1) else (m, e)
  if greatestExponent < e then .infinite negative else .finite negative m e

/-- The number nearest to `± num / den`, a tie going to the even significand. -/
def ofRatio (negative : Bool) (num den : Nat) : Binary64 :=
  if num = 0 then zero negative
  else
    let e := unitExponent num den
    ofSignificand negative (roundHalfEven (num * twoTo (-e).toNat) (den * twoTo e.toNat)) e

/-- The number nearest to `± m · 2 ^ e`. -/
def ofScaled (negative : Bool) (m : Nat) (e : Int) : Binary64 :=
  ofRatio negative (m * twoTo e.toNat) (twoTo (-e).toNat)

/-- The number nearest to a natural number. -/
def ofNat (n : Nat) : Binary64 := ofRatio false n 1

/-! ### Arithmetic -/

/-- The number with the other sign. -/
def neg : Binary64 → Binary64
  | .nan => .nan
  | .infinite negative => .infinite (!negative)
  | .finite negative m e => .finite (!negative) m e

/-- The integer `± m · 2 ^ (e - base)`, for a base of at most `e`. -/
def signedAt (negative : Bool) (m : Nat) (e base : Int) : Int :=
  let n : Int := (m * twoTo (e - base).toNat : Nat)
  if negative then -n else n

/-- The rounded sum.  A sum of zero is positive unless both zeros are negative. -/
def add : Binary64 → Binary64 → Binary64
  | .nan, _ => .nan
  | _, .nan => .nan
  | .infinite a, .infinite b => if a = b then .infinite a else .nan
  | .infinite a, .finite _ _ _ => .infinite a
  | .finite _ _ _, .infinite b => .infinite b
  | .finite a m e, .finite b n f =>
    let base := min e f
    let sum := signedAt a m e base + signedAt b n f base
    if sum = 0 then zero (a && b) else ofScaled (sum < 0) sum.natAbs base

/-- The rounded difference. -/
def sub (x y : Binary64) : Binary64 := add x (neg y)

/-- The rounded product. -/
def mul : Binary64 → Binary64 → Binary64
  | .nan, _ => .nan
  | _, .nan => .nan
  | .infinite a, .infinite b => .infinite (a != b)
  | .infinite a, .finite b n _ => if n = 0 then .nan else .infinite (a != b)
  | .finite a m _, .infinite b => if m = 0 then .nan else .infinite (a != b)
  | .finite a m e, .finite b n f => ofScaled (a != b) (m * n) (e + f)

/-- The rounded quotient. -/
def div : Binary64 → Binary64 → Binary64
  | .nan, _ => .nan
  | _, .nan => .nan
  | .infinite _, .infinite _ => .nan
  | .infinite a, .finite b _ _ => .infinite (a != b)
  | .finite a _ _, .infinite b => zero (a != b)
  | .finite a m e, .finite b n f =>
    if n = 0 then (if m = 0 then .nan else .infinite (a != b))
    else ofRatio (a != b) (m * twoTo (e - f).toNat) (n * twoTo (f - e).toNat)

/-! ### Order -/

/-- Strictly less; false where either side is not a number. -/
def lt : Binary64 → Binary64 → Bool
  | .nan, _ => false
  | _, .nan => false
  | .infinite a, .infinite b => a && !b
  | .infinite a, .finite _ _ _ => a
  | .finite _ _ _, .infinite b => !b
  | .finite a m e, .finite b n f =>
    signedAt a m e (min e f) < signedAt b n f (min e f)

/-- Less or equal, the two zeros being equal; false where either side is not a
number. -/
def le : Binary64 → Binary64 → Bool
  | .nan, _ => false
  | _, .nan => false
  | .infinite a, .infinite b => a || !b
  | .infinite a, .finite _ _ _ => a
  | .finite _ _ _, .infinite b => !b
  | .finite a m e, .finite b n f =>
    signedAt a m e (min e f) ≤ signedAt b n f (min e f)

/-- The number is one of the two zeros. -/
def isZero : Binary64 → Bool
  | .finite _ m _ => m == 0
  | _ => false

/-! ### Parts of a number -/

/-- The greatest integer not above the number. -/
def floor : Binary64 → Binary64
  | .finite negative m e =>
    let q := m * twoTo e.toNat / twoTo (-e).toNat
    let r := m * twoTo e.toNat % twoTo (-e).toNat
    ofRatio negative (if negative && r != 0 then q + 1 else q) 1
  | x => x

/-- What remains when the number is cut to an integer toward zero; it has the
sign of the number. -/
def fraction : Binary64 → Binary64
  | .finite negative m e =>
    ofRatio negative (m * twoTo e.toNat % twoTo (-e).toNat) (twoTo (-e).toNat)
  | _ => .nan

/-- The number moved into the unit interval by whole steps: its fraction, to
which one is added if it is below zero. -/
def wrapUnit (x : Binary64) : Binary64 :=
  if lt x.fraction (zero false) then add x.fraction (ofNat 1) else x.fraction

/-- The number held between zero and one. -/
def clampUnit (x : Binary64) : Binary64 :=
  if lt x (zero false) then zero false else if lt (ofNat 1) x then ofNat 1 else x

/-- The natural number that a non-negative number is rounded to by `round`, given
its numerator and denominator; anything else counts as zero. -/
def toNatBy (round : Nat → Nat → Nat) : Binary64 → Nat
  | .finite false m e => round (m * twoTo e.toNat) (twoTo (-e).toNat)
  | _ => 0

/-! ### The interchange format -/

/-- The 64 bits of a number. -/
def toBits : Binary64 → Nat
  | .nan => 0x7ff8000000000000
  | .infinite negative => (if negative then twoTo 63 else 0) + 2047 * twoTo 52
  | .finite negative m e =>
    (if negative then twoTo 63 else 0) +
      (if m < twoTo 52 then m else (e + 1075).toNat * twoTo 52 + (m - twoTo 52))

/-- The number with the given 64 bits. -/
def ofBits (bits : Nat) : Binary64 :=
  let negative := bits / twoTo 63 % 2 == 1
  let biased : Nat := bits / twoTo 52 % 2048
  let low := bits % twoTo 52
  if biased = 2047 then (if low = 0 then .infinite negative else .nan)
  else if biased = 0 then .finite negative low leastExponent
  else .finite negative (twoTo 52 + low) ((biased : Int) - 1075)

end Binary64

end Questionnaire
