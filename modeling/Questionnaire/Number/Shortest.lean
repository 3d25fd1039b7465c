import Questionnaire.Number.Binary64
import Questionnaire.Number.Numeral

/-!
# Shortest decimal form

A double-precision number is written with the fewest significant digits that
still determine it.  Among the decimal numbers with that many digits which round
to it, the nearest one is taken, and of two equally near the even one.

## Main definitions

* `Shortest.readsBack` — a decimal number lies within the reals that round to a
  given number.
* `Shortest.digits` — the shortest digits and their power of ten.
* `Shortest.layout` — where the point and the power of ten are written.
* `Binary64.writeShortest` — the whole form.
-/

namespace Questionnaire

namespace Shortest

/-- `a · 10 ^ g` compared with `b · 2 ^ e`, both sides cleared of fractions. -/
def compareScaled (a : Nat) (g : Int) (b : Nat) (e : Int) : Ordering :=
  compare (a * tenTo g.toNat * twoTo (-e).toNat) (b * twoTo e.toNat * tenTo (-g).toNat)

/-- The reals between `c · 10 ^ g` and `m · 2 ^ e` round to the latter: the decimal
number lies within half a step on either side, the step below a power of two
being half as wide, and the ends belong to an even significand. -/
def readsBack (m : Nat) (e : Int) (c : Nat) (g : Int) : Bool :=
  let below := if m = twoTo 52 && Binary64.leastExponent < e then 1 else 2
  let lower := compareScaled c g (4 * m - below) (e - 2)
  let upper := compareScaled c g (4 * m + 2) (e - 2)
  if m % 2 == 0 then lower != .lt && upper != .gt else lower == .gt && upper == .lt

/-- The number of digits before the point of `m · 2 ^ e`, or minus the number of
zeros after it.  Every positive number is above `10 ^ -400`. -/
def magnitude (m : Nat) (e : Int) : Int :=
  (Numeral.write (tenTo 400 * m * twoTo e.toNat / twoTo (-e).toNat)).length - 400

/-- The decimal number of the grid `10 ^ g` that is nearest to `m · 2 ^ e` among the
two neighbours which read back, if one does. -/
def onGrid? (m : Nat) (e : Int) (g : Int) : Option Nat :=
  let num := m * twoTo e.toNat * tenTo (-g).toNat
  let den := twoTo (-e).toNat * tenTo g.toNat
  let low := num / den
  match readsBack m e low g, readsBack m e (low + 1) g with
  | true, true => some (roundHalfEven num den)
  | true, false => some low
  | false, true => some (low + 1)
  | false, false => none

/-- The shortest digits of `m · 2 ^ e`, which is positive, without closing zeros,
and the power of ten they are multiplied by. -/
def digits (m : Nat) (e : Int) : Text × Int :=
  let k := magnitude m e
  match (List.range' 1 17).findSome? fun (n : Nat) =>
      (onGrid? m e (k - n)).map fun c => (c, k - (n : Int)) with
  | none => (['0'], 0)
  | some (c, g) =>
    let all := (Numeral.write c).reverse
    let zeros := all.takeWhile (· == '0')
    ((all.drop zeros.length).reverse, g + zeros.length)

/-- The greatest count of digits before the point that is written without a power
of ten. -/
def widest : Int := 16

/-- The greatest count of zeros between the point and the first digit that is
written without a power of ten. -/
def deepest : Int := 4

/-- The digits with a point, and with a power of ten where the number is very
large or very small.  An integer is written with one zero after the point. -/
def layout (ds : Text) (g : Int) : Text :=
  let point : Int := ds.length + g
  if 0 ≤ g && point ≤ widest then ds ++ List.replicate g.toNat '0' ++ ['.', '0']
  else if 0 < point && point ≤ widest then
    ds.take point.toNat ++ ['.'] ++ ds.drop point.toNat
  else if -deepest ≤ point && point ≤ 0 then
    ['0', '.'] ++ List.replicate (-point).toNat '0' ++ ds
  else
    let power := point - 1
    let first := match ds with
      | [d] => [d]
      | _ => ds.take 1 ++ ['.'] ++ ds.drop 1
    first ++ ['e'] ++ (if power < 0 then ['-'] else []) ++ Numeral.write power.natAbs

end Shortest

/-- The shortest form of a number.  A number without digits has none and is
written as a missing value. -/
def Binary64.writeShortest : Binary64 → Text
  | .finite negative m e =>
    (if negative then ['-'] else []) ++
      (if m = 0 then ['0', '.', '0'] else
        let (ds, g) := Shortest.digits m e
        Shortest.layout ds g)
  | _ => "null".toList

end Questionnaire
