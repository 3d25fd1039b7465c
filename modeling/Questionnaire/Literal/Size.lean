import Questionnaire.Number.Decimal
import Questionnaire.Text.Blank

/-!
# Sizes in bytes

A size is a decimal number, optional blanks and an optional unit.  The number is
read in double precision, multiplied by the unit and rounded down.

## Main definitions

* `Size.unitTable` — the units and their numbers of bytes.
* `Size.split?` — the number and the unit of a text.
* `Size.Fault` — why a text is not a size.
* `Size.read` — the bytes that a text stands for.
-/

namespace Questionnaire.Size

open Text

/-- The spellings of the units, case mattering, and their numbers of bytes. -/
def unitTable : List (Text × Nat) :=
  [("".toList, 1), ("B".toList, 1), ("byte".toList, 1), ("bytes".toList, 1),
   ("kB".toList, 1000), ("KB".toList, 1000), ("kilobyte".toList, 1000),
   ("kilobytes".toList, 1000),
   ("MB".toList, 1000000), ("megabyte".toList, 1000000), ("megabytes".toList, 1000000),
   ("GB".toList, 1000000000), ("gigabyte".toList, 1000000000),
   ("gigabytes".toList, 1000000000),
   ("KiB".toList, 1024), ("kibibyte".toList, 1024), ("kibibytes".toList, 1024),
   ("MiB".toList, 1048576), ("mebibyte".toList, 1048576), ("mebibytes".toList, 1048576),
   ("GiB".toList, 1073741800), ("gibibyte".toList, 1073741800),
   ("gibibytes".toList, 1073741800)]

/-- The number of bytes of a unit. -/
def bytesOf? (unit : Text) : Option Nat :=
  (unitTable.find? (·.1 == unit)).map (·.2)

/-- Why a text is not a size. -/
inductive Fault where
  /-- The text is not a number and letters after it. -/
  | form (text : Text)
  /-- The letters are no known unit. -/
  | unit (word : Text)
  /-- The number of bytes is beyond 64 bits. -/
  | range (text : Text)
  deriving DecidableEq, Repr

/-- What is said about a text that is not a size. -/
def Fault.message : Fault → Text
  | .form t => "invalid size '".toList ++ t ++ "': expected '<number> [unit]'".toList
  | .unit word => "unknown size unit '".toList ++ word ++ ['\'']
  | .range t => "size '".toList ++ t ++ "' is too large".toList

/-- The greatest number of bytes. -/
def greatest : Nat := 0xffffffffffffffff

/-- The number at the start of a text and the letters that make up the rest of
it, after any blanks. -/
def split? (t : Text) : Option (Decimal × Text) :=
  match Decimal.scan? t with
  | none => none
  | some (number, rest) =>
    let unit := rest.dropWhile isBlank
    if unit.all Char.isAlpha then some (number, unit) else none

/-- The whole bytes of a number of units; none beyond `2 ^ 64`, and at most the
greatest. -/
def bytes? (number : Decimal) (factor : Nat) : Option Nat :=
  match ((number.toBinary64 false).mul (.ofNat factor)).floor with
  | .finite negative m e =>
    if Binary64.lt (.ofNat (twoTo 64)) (.finite negative m e) then none
    else some (min (Binary64.toNatBy (· / ·) (.finite negative m e)) greatest)
  | _ => none

/-- The bytes that a text stands for, blanks at its ends aside. -/
def read (t : Text) : Except Fault Nat :=
  match split? (trim t) with
  | none => .error (.form (trim t))
  | some (number, unit) =>
    match bytesOf? unit with
    | none => .error (.unit unit)
    | some factor =>
      match bytes? number factor with
      | none => .error (.range (trim t))
      | some bytes => .ok bytes

end Questionnaire.Size
