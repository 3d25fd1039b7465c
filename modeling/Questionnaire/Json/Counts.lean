import Questionnaire.Json.Quoted
import Questionnaire.Number.Numeral

/-!
# Objects of counts

An object of counts is a JSON object whose values are natural numbers of at most
32 bits, written as plain decimal digits without leading zeros.

## Main definitions

* `Counts.isSpace`, `Counts.skip` — the blanks between the parts of an object.
* `Counts.number?` — the number at the start of a text.
* `Counts.field?` — the field at the start of a text.
* `Counts.read?` — the fields of a text that is an object of counts.
-/

namespace Questionnaire.Counts

/-- The four blanks of JSON. -/
def isSpace (c : Char) : Bool := c == ' ' || c == '\n' || c == '\t' || c == '\r'

/-- The text behind the blanks at its start. -/
def skip (t : Text) : Text := t.dropWhile isSpace

/-- The greatest number. -/
def greatest : Nat := 0xffffffff

/-- The number at the start of a text and what follows its digits. -/
def number? (t : Text) : Option (Nat × Text) :=
  let digits := t.takeWhile Char.isDigit
  if digits.isEmpty || (digits.head? == some '0' && 1 < digits.length) then none
  else if greatest < Numeral.value digits then none
  else some (Numeral.value digits, t.dropWhile Char.isDigit)

/-- The field at the start of a text: a string, a colon and a number, with blanks
around them; and what follows it. -/
def field? (t : Text) : Option ((Text × Nat) × Text) :=
  match skip t with
  | '"' :: r =>
    match Json.closeString? r with
    | some (name, r) =>
      match skip r with
      | ':' :: r => (number? (skip r)).map fun (n, r) => ((name, n), skip r)
      | _ => none
    | none => none
  | _ => none

/-- The fields up to the closing brace, and what follows it.  The fuel bounds the
number of fields. -/
def fields? : Nat → Text → Option (List (Text × Nat) × Text)
  | 0, _ => none
  | fuel + 1, t =>
    match field? t with
    | some (field, '\x7d' :: r) => some ([field], r)
    | some (field, ',' :: r) => (fields? fuel r).map fun (fields, r) => (field :: fields, r)
    | _ => none

/-- The fields of a text that is an object of counts, in order.  Nothing but blanks
may stand around it. -/
def read? (t : Text) : Option (List (Text × Nat)) :=
  match skip t with
  | '\x7b' :: r =>
    let fields := match skip r with
      | '\x7d' :: r => some ([], r)
      | _ => fields? r.length r
    match fields with
    | some (fields, r) => if (skip r).isEmpty then some fields else none
    | none => none
  | _ => none

end Questionnaire.Counts
