/-!
# Powers of two and ten

The two bases of the number formats.

## Main definitions

* `twoTo`, `tenTo` — the powers.
-/

namespace Questionnaire

/-- The power of two. -/
def twoTo (n : Nat) : Nat := Nat.pow 2 n

/-- The power of ten. -/
def tenTo (n : Nat) : Nat := Nat.pow 10 n

@[simp] theorem twoTo_zero : twoTo 0 = 1 := rfl

theorem twoTo_succ (n : Nat) : twoTo (n + 1) = twoTo n * 2 := rfl

theorem twoTo_pos (n : Nat) : 0 < twoTo n := Nat.pow_pos (by decide)

theorem tenTo_pos (n : Nat) : 0 < tenTo n := Nat.pow_pos (by decide)

end Questionnaire
