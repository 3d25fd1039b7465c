import Questionnaire.Number.Binary64
import Questionnaire.Number.Numeral

/-!
# Decimal numbers

A decimal number is written as digits with an optional point among them and an
optional power of ten after them.

## Main definitions

* `Decimal` — a natural coefficient and a power of ten.
* `Decimal.scan?` — the longest decimal number at the start of a text.
* `Decimal.toBinary64` — the nearest double-precision number.
* `Binary64.read?` — a signed decimal number, an infinity or not a number.
-/

namespace Questionnaire

/-- The number `coefficient · 10 ^ exponent`. -/
structure Decimal where
  /-- The digits, read as a natural number. -/
  coefficient : Nat
  /-- The power of ten. -/
  exponent : Int
deriving DecidableEq, Repr

namespace Decimal

/-! ### Reading -/

/-- The optional sign in front of a text: whether it is a minus, and the rest. -/
def splitSign : Text → Bool × Text
  | '-' :: r => (true, r)
  | '+' :: r => (false, r)
  | t => (false, t)

/-- The power of ten at the start of a text: a letter `e` of either case, an
optional sign and at least one digit.  Without one the power is zero and nothing
is taken. -/
def scanPower : Text → Int × Text
  | [] => (0, [])
  | c :: r =>
    if c = 'e' || c = 'E' then
      let (negative, unsigned) := splitSign r
      let (digits, rest) := unsigned.span Char.isDigit
      if digits.isEmpty then (0, c :: r)
      else
        let power : Int := Numeral.value digits
        (if negative then -power else power, rest)
    else (0, c :: r)

/-- The fraction at the start of a text: a point and any digits. -/
def scanFraction : Text → Text × Text
  | '.' :: r => r.span Char.isDigit
  | t => ([], t)

/-- The longest decimal number at the start of a text and what follows it:
digits, an optional point with any digits, at least one digit in all, and an
optional power of ten. -/
def scan? (t : Text) : Option (Decimal × Text) :=
  let (whole, rest) := t.span Char.isDigit
  let (fraction, rest) := scanFraction rest
  if whole.isEmpty && fraction.isEmpty then none
  else
    let (power, rest) := scanPower rest
    some (⟨Numeral.value (whole ++ fraction), power - fraction.length⟩, rest)

/-! ### Value -/

/-- The double-precision number nearest to the decimal number.  Beyond the tenth
power of ± 400 the answer is known before the power is formed. -/
def toBinary64 (negative : Bool) (d : Decimal) : Binary64 :=
  if d.coefficient = 0 then .zero negative
  else if 400 ≤ d.exponent then .infinite negative
  else if (Nat.log2 d.coefficient : Int) + 1 + d.exponent ≤ -400 then .zero negative
  else .ofRatio negative (d.coefficient * tenTo d.exponent.toNat) (tenTo (-d.exponent).toNat)

end Decimal

namespace Binary64

/-- The words for numbers without digits, in lowercase. -/
def ofWord? (negative : Bool) (word : Text) : Option Binary64 :=
  if word = "inf".toList || word = "infinity".toList then some (.infinite negative)
  else if word = "nan".toList then some .nan
  else none

/-- The number that a text stands for: after an optional sign, a decimal number
or one of the words `inf`, `infinity` and `nan` in any case. -/
def read? (t : Text) : Option Binary64 :=
  let (negative, unsigned) := Decimal.splitSign t
  match ofWord? negative (unsigned.map Char.toLower) with
  | some x => some x
  | none =>
    match Decimal.scan? unsigned with
    | some (d, []) => some (d.toBinary64 negative)
    | _ => none

end Binary64

end Questionnaire
