import Questionnaire.Number.Decimal
import Questionnaire.Text.Blank

/-!
# Intervals of time

An interval is a whole number of nanoseconds.  It is given as a decimal number
of seconds, which is read in double precision and rounded to the nearest
nanosecond, ties going to the even one.

## Main definitions

* `Interval` — a number of nanoseconds.
* `Interval.seconds`, `Interval.nanoseconds`, `Interval.ofParts` — its whole
  seconds, what is beyond them, and the interval that the two make up.
* `Interval.ofSeconds?` — the interval of a number of seconds.
* `Interval.read?` — the interval that a text stands for.
* `Interval.write` — the interval in its largest unit.
-/

namespace Questionnaire

/-- A length of time. -/
structure Interval where
  /-- The length in nanoseconds. -/
  total : Nat
  deriving DecidableEq, Repr

namespace Interval

open Text

/-- The nanoseconds of a second. -/
def perSecond : Nat := 1000000000

/-- The whole seconds. -/
def seconds (i : Interval) : Nat := i.total / perSecond

/-- The nanoseconds beyond the whole seconds. -/
def nanoseconds (i : Interval) : Nat := i.total % perSecond

/-- The interval of some seconds and nanoseconds.  Nanoseconds that fill a second are carried. -/
def ofParts (seconds nanoseconds : Nat) : Interval := ⟨seconds * perSecond + nanoseconds⟩

/-- The parts of an interval make it up. -/
theorem ofParts_seconds_nanoseconds (i : Interval) : ofParts i.seconds i.nanoseconds = i := by
  have h := Nat.div_add_mod' i.total perSecond
  simp [ofParts, seconds, nanoseconds, h]

/-- The interval nearest to a number of seconds that is not negative and below
`2 ^ 64`. -/
def ofSeconds? : Binary64 → Option Interval
  | .finite negative m e =>
    if Binary64.lt (.finite negative m e) (.zero false) then none
    else if Binary64.le (.ofNat (twoTo 64)) (.finite negative m e) then none
    else some
      ⟨Binary64.toNatBy (fun num den => roundHalfEven (num * perSecond) den)
        (.finite negative m e)⟩
  | _ => none

/-- The interval that a text stands for, blanks at its ends aside. -/
def read? (t : Text) : Option Interval := (Binary64.read? (trim t)).bind ofSeconds?

/-- A whole number and `width` decimal digits of a fraction, closing zeros left
out, with a unit after it. -/
def writeFraction (whole fraction width : Nat) (unit : Text) : Text :=
  let digits := Numeral.pad '0' width (Numeral.write fraction)
  let shown := (digits.reverse.dropWhile (· == '0')).reverse
  Numeral.write whole ++ (if fraction = 0 then [] else '.' :: shown) ++ unit

/-- The interval in the largest of the units s, ms, µs and ns that it fills, with
all its digits. -/
def write (i : Interval) : Text :=
  let n := i.nanoseconds
  if 0 < i.seconds then writeFraction i.seconds n 9 ['s']
  else if 1000000 ≤ n then writeFraction (n / 1000000) (n % 1000000) 6 ['m', 's']
  else if 1000 ≤ n then writeFraction (n / 1000) (n % 1000) 3 ['µ', 's']
  else writeFraction n 0 0 ['n', 's']

end Interval

end Questionnaire
