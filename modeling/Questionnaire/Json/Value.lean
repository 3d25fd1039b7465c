import Questionnaire.Json.Quoted
import Questionnaire.Number.Shortest

/-!
# JSON values

The values that are written as JSON, in one line or indented.

## Main definitions

* `Json` — natural numbers, double-precision numbers, texts, lists and objects.
* `Json.compact` — the value in one line without blanks.
* `Json.pretty` — the value with one item or field a line, each level indented by
  two spaces.
-/

namespace Questionnaire

/-- A value that is written as JSON. -/
inductive Json where
  /-- A natural number. -/
  | natural (n : Nat)
  /-- A double-precision number. -/
  | real (x : Binary64)
  /-- A text. -/
  | text (t : Text)
  /-- A list of values. -/
  | list (items : List Json)
  /-- An object of named values, in the order they are written. -/
  | object (fields : List (Text × Json))

namespace Json

open Text

mutual

/-- The value in one line. -/
def compact : Json → Text
  | .natural n => Numeral.write n
  | .real x => x.writeShortest
  | .text t => quoted t
  | .list items => ['['] ++ [','].intercalate (compactItems items) ++ [']']
  | .object fields => ['\x7b'] ++ [','].intercalate (compactFields fields) ++ ['\x7d']

/-- The items of a list, each in one line. -/
def compactItems : List Json → List Text
  | [] => []
  | item :: items => compact item :: compactItems items

/-- The fields of an object, each in one line. -/
def compactFields : List (Text × Json) → List Text
  | [] => []
  | (name, value) :: fields => (quoted name ++ [':'] ++ compact value) :: compactFields fields

end

/-- The start of a line at a level of indentation. -/
def newline (level : Nat) : Text := '\n' :: List.replicate (2 * level) ' '

/-- Parts between brackets, each on a line of its own one level further in. -/
def block (level : Nat) (opening closing : Char) (parts : List Text) : Text :=
  match parts with
  | [] => [opening, closing]
  | _ =>
    [opening] ++ newline (level + 1) ++ (',' :: newline (level + 1)).intercalate parts ++
      newline level ++ [closing]

mutual

/-- The value over several lines, the first of them at a level of indentation. -/
def prettyAt (level : Nat) : Json → Text
  | .natural n => Numeral.write n
  | .real x => x.writeShortest
  | .text t => quoted t
  | .list items => block level '[' ']' (prettyItems (level + 1) items)
  | .object fields => block level '\x7b' '\x7d' (prettyFields (level + 1) fields)

/-- The items of a list. -/
def prettyItems (level : Nat) : List Json → List Text
  | [] => []
  | item :: items => prettyAt level item :: prettyItems level items

/-- The fields of an object. -/
def prettyFields (level : Nat) : List (Text × Json) → List Text
  | [] => []
  | (name, value) :: fields =>
    (quoted name ++ [':', ' '] ++ prettyAt level value) :: prettyFields level fields

end

/-- The value over several lines. -/
def pretty (value : Json) : Text := prettyAt 0 value

end Json

end Questionnaire
