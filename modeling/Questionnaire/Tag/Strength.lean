/-!
# Strengths

The strength of a tag is a 32-bit count.  Its changes are monotone or
all-or-nothing, so that independent rules may claim one tag within one pass.

## Main definitions

* `Strength` — the count.
* `Change` — what may be done to a strength.
* `Change.apply` — the strength after a change.
-/

namespace Questionnaire

/-- How strongly a tag applies; at zero it is known but does not apply. -/
abbrev Strength := UInt32

/-- The greatest strength. -/
def Strength.greatest : Strength := 0xffffffff

/-- What may be done to the strength of a tag. -/
inductive Change where
  /-- Leave it as it is. -/
  | keep
  /-- Raise it to a value that is greater. -/
  | raise (value : Strength)
  /-- Increase it by a value, up to the greatest strength. -/
  | add (value : Strength)
  /-- Decrease it by a value that it is not below. -/
  | lower (value : Strength)
  /-- Set it to zero if it is not above a value. -/
  | clear (value : Strength)
  deriving DecidableEq, Repr

namespace Change

/-- The strength after a change. -/
def apply : Change → Strength → Strength
  | .keep, s => s
  | .raise v, s => if s < v then v else s
  | .add v, s => if s.toNat + v.toNat < UInt32.size then s + v else Strength.greatest
  | .lower v, s => if v ≤ s then s - v else s
  | .clear v, s => if s ≤ v then 0 else s

/-- Raising takes the greater of the two strengths. -/
theorem toNat_apply_raise (v s : Strength) :
    ((Change.raise v).apply s).toNat = max s.toNat v.toNat := by
  simp only [apply, UInt32.lt_iff_toNat_lt]
  split <;> omega

/-- Adding stops at the greatest strength. -/
theorem toNat_apply_add (v s : Strength) :
    ((Change.add v).apply s).toNat = min (s.toNat + v.toNat) 0xffffffff := by
  simp only [apply, UInt32.size]
  split
  · rw [UInt32.toNat_add]; omega
  · simp only [Strength.greatest, UInt32.reduceToNat]; omega

/-- Lowering takes the value away where it can be taken whole. -/
theorem toNat_apply_lower (v s : Strength) :
    ((Change.lower v).apply s).toNat =
      if v.toNat ≤ s.toNat then s.toNat - v.toNat else s.toNat := by
  simp only [apply, UInt32.le_iff_toNat_le]
  split
  · rw [UInt32.toNat_sub_of_le _ _ (by simpa [UInt32.le_iff_toNat_le])]
  · rfl

/-- Clearing leaves a strength above the value alone. -/
theorem toNat_apply_clear (v s : Strength) :
    ((Change.clear v).apply s).toNat = if s.toNat ≤ v.toNat then 0 else s.toNat := by
  simp only [apply, UInt32.le_iff_toNat_le]
  split <;> rfl

end Change

end Questionnaire
