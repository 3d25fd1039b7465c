import Questionnaire.Text.Basic

/-!
# Positions

A place in a template is given by its line and its column, both counted from
one.  A line feed begins a new line; every other character moves one column on.

## Main definitions

* `Position` — a line and a column.
* `Position.after pos t` — the place behind a text that begins at `pos`.
-/

namespace Questionnaire

/-- A place in a text. -/
structure Position where
  /-- The line, counted from one. -/
  line : Nat
  /-- The column, counted from one. -/
  column : Nat
  deriving DecidableEq, Repr

namespace Position

/-- The place of the first character. -/
def start : Position := ⟨1, 1⟩

/-- The place behind one character. -/
def step (pos : Position) (c : Char) : Position :=
  if c = '\n' then ⟨pos.line + 1, 1⟩ else ⟨pos.line, pos.column + 1⟩

/-- The place behind a text that begins at `pos`. -/
def after (pos : Position) (t : Text) : Position := t.foldl step pos

@[simp] theorem after_nil (pos : Position) : pos.after [] = pos := rfl

@[simp] theorem after_cons (pos : Position) (c : Char) (t : Text) :
    pos.after (c :: t) = (pos.step c).after t := rfl

theorem after_append (pos : Position) (t u : Text) :
    pos.after (t ++ u) = (pos.after t).after u := List.foldl_append

end Position

end Questionnaire
