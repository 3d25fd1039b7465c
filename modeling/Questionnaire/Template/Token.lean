import Questionnaire.Template.Error

/-!
# Tokens

A token is a pair without its layout: its key, its value, and the position of the
first character of its key.

## Main definitions

* `Token` — a key and a value at a position.
* `tokenize` — the tokens of a template, or the first error.
-/

namespace Questionnaire

/-- A key and its value at a position. -/
structure Token where
  /-- The position of the key. -/
  position : Position
  /-- The key. -/
  key : Key
  /-- The value. -/
  value : Text
  deriving DecidableEq, Repr

/-- The rest of a text behind the blanks and comments at its start is no longer
than the text. -/
theorem Trivia.length_split_le (t : Text) : (Trivia.split t).2.length ≤ t.length := by
  have h := congrArg List.length (Trivia.split_append t)
  rw [List.length_append] at h
  omega

/-- The tokens of a text that begins at `pos`. -/
def tokenizeFrom (pos : Position) (t : Text) : Except TemplateError (List Token) :=
  let rest := (Trivia.split t).2
  let pos := pos.after (Trivia.split t).1
  if rest.isEmpty then .ok []
  else
    match _h : Pair.split rest with
    | .error (before, fault) => .error ⟨pos.after before, .reading fault⟩
    | .ok (pair, rest) =>
      (tokenizeFrom (pos.after pair.written) rest).map (⟨pos, pair.key, pair.value⟩ :: ·)
termination_by t.length
decreasing_by exact Nat.lt_of_lt_of_le (Pair.length_lt_of_split _h) (Trivia.length_split_le t)

/-- The tokens of a template, or its first error. -/
def tokenize (source : Text) : Except TemplateError (List Token) :=
  tokenizeFrom .start source

end Questionnaire
