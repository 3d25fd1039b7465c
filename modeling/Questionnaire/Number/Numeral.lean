import Questionnaire.Text.Basic

/-!
# Decimal numerals

Natural numbers as decimal digits.

## Main definitions

* `Numeral.write` — a number without leading zeros.
* `Numeral.value` — the number a row of digits stands for.
* `Numeral.read? bound` — a non-empty row of digits, an optional plus sign before
  it, for a number of at most `bound`.
* `Numeral.pad` — digits preceded by a fill character up to a width.
-/

namespace Questionnaire.Numeral

/-- The decimal digits of a number, without leading zeros. -/
def write (n : Nat) : Text := Nat.toDigits 10 n

/-- The digits of a number, preceded by as many of `fill` as make up the width. -/
def pad (fill : Char) (width : Nat) (digits : Text) : Text :=
  List.replicate (width - digits.length) fill ++ digits

/-- The number that a row of digits stands for. -/
def value (digits : Text) : Nat := Nat.ofDigitChars 10 digits 0

/-- The number of a non-empty row of digits. -/
def ofDigits? (t : Text) : Option Nat :=
  if !t.isEmpty && t.all Char.isDigit then some (value t) else none

/-- The number of a non-empty row of digits that may follow a plus sign, if it is
at most `bound`. -/
def read? (bound : Nat) (t : Text) : Option Nat :=
  let digits := match t with
    | '+' :: r => r
    | _ => t
  (ofDigits? digits).filter (· ≤ bound)

end Questionnaire.Numeral
