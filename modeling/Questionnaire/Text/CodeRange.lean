import Questionnaire.Text.Basic

/-!
# Sets of characters given by code ranges

Character properties are tables of code ranges, each given by its first and its
last code.

## Main definitions

* `CodeRange` — a first and a last code, both included.
* `CodeRange.covers ranges c` — some range of the table holds the code of `c`.
-/

namespace Questionnaire

/-- A stretch of codes, both ends included. -/
abbrev CodeRange := Nat × Nat

namespace CodeRange

/-- The code lies in the stretch. -/
def holds (range : CodeRange) (code : Nat) : Bool := range.1 ≤ code && code ≤ range.2

/-- Some stretch of the table holds the character's code. -/
def covers (ranges : List CodeRange) (c : Char) : Bool :=
  ranges.any (holds · c.toNat)

theorem covers_eq_true_iff {ranges : List CodeRange} {c : Char} :
    covers ranges c = true ↔ ∃ r ∈ ranges, r.1 ≤ c.toNat ∧ c.toNat ≤ r.2 := by
  simp [covers, holds]

end CodeRange

end Questionnaire
