import Questionnaire.Text.CaseTables

/-!
# Lowercase

The full lowercase form of a text.  Two letters are special: a dotted capital I
becomes an `i` with a combining dot, and a capital sigma becomes a final sigma
where it closes a word, that is, where a cased character stands before it and
none stands after it, characters that case ignores being skipped on both sides.

## Main definitions

* `Text.isCased`, `Text.isCaseIgnorable` — the two properties of the context.
* `Text.lowerChar` — the lowercase form of a character outside any context.
* `Text.lowercase` — the lowercase form of a text.
-/

namespace Questionnaire.Text

/-- The character is a letter with case. -/
def isCased (c : Char) : Bool := CodeRange.covers casedRanges c

/-- The character is skipped when the neighbours of a sigma are sought. -/
def isCaseIgnorable (c : Char) : Bool := CodeRange.covers caseIgnorableRanges c

/-- The lowercase form of a character that stands alone. -/
def lowerChar (c : Char) : Text :=
  if c = 'İ' then ['i', '\u0307']
  else if c = 'Σ' then ['σ']
  else match lowercaseRuns.find? (·.holds c.toNat) with
    | some run => [Char.ofNat (run.lower c.toNat)]
    | none => [c]

/-- The first character that case does not ignore is cased. -/
def startsCased (t : Text) : Bool :=
  match t.dropWhile isCaseIgnorable with
  | [] => false
  | c :: _ => isCased c

/-- Whether a cased character lies directly before what follows `c`, given
whether one lies directly before `c`. -/
def casedAfter (casedBefore : Bool) (c : Char) : Bool :=
  if isCaseIgnorable c then casedBefore else isCased c

/-- The lowercase form of the rest of a text; `casedBefore` says whether a cased
character lies directly before it. -/
def lowercaseFrom (casedBefore : Bool) : Text → Text
  | [] => []
  | c :: r =>
    (if c = 'Σ' && casedBefore && !startsCased r then ['ς'] else lowerChar c)
      ++ lowercaseFrom (casedAfter casedBefore c) r

/-- The lowercase form of a text. -/
def lowercase (t : Text) : Text := lowercaseFrom false t

@[simp] theorem lowercase_nil : lowercase [] = [] := rfl

/-- The lowercase form by ASCII rules alone. -/
def asciiLowercase (t : Text) : Text := t.map Char.toLower

end Questionnaire.Text
