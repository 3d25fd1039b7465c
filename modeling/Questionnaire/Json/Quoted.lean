import Questionnaire.Text.Quoted

/-!
# Strings in JSON

A JSON string stands between double quotes.  Written strings escape the quote, the
backslash and the control characters below the space, and nothing else.  In a
string that is read, a character may also be given by one or two codes of
sixteen bits, two of them forming one character beyond the first 65536.

## Main definitions

* `Json.escapeChar`, `Json.quoted` — a written string.
* `Json.Part` — a character or a code of a string that is read.
* `Json.readParts?` — the parts up to the closing quote.
* `Json.joinParts?` — the text of the parts.
* `Json.closeString?` — the text up to the closing quote, and what follows it.
-/

namespace Questionnaire.Json

open Text

/-! ### Writing -/

/-- A character as it is written in a string. -/
def escapeChar (c : Char) : Text :=
  if c = '"' then ['\\', '"']
  else if c = '\\' then ['\\', '\\']
  else if c = '\x08' then ['\\', 'b']
  else if c = '\t' then ['\\', 't']
  else if c = '\n' then ['\\', 'n']
  else if c = '\x0c' then ['\\', 'f']
  else if c = '\r' then ['\\', 'r']
  else if c.toNat < 0x20 then
    ['\\', 'u', '0', '0', Nat.digitChar (c.toNat / 16), Nat.digitChar (c.toNat % 16)]
  else [c]

/-- A text as a string. -/
def quoted (t : Text) : Text := '"' :: t.flatMap escapeChar ++ ['"']

/-! ### Reading -/

/-- A part of a string that is read. -/
inductive Part where
  /-- A character. -/
  | char (c : Char)
  /-- A code of sixteen bits. -/
  | code (n : Nat)
  deriving DecidableEq, Repr

/-- The character of a letter behind a backslash. -/
def ofEscape? (c : Char) : Option Char :=
  if c = '"' then some '"'
  else if c = '\\' then some '\\'
  else if c = '/' then some '/'
  else if c = 'b' then some '\x08'
  else if c = 'f' then some '\x0c'
  else if c = 'n' then some '\n'
  else if c = 'r' then some '\r'
  else if c = 't' then some '\t'
  else none

/-- The code of four hexadecimal digits. -/
def code? (a b c d : Char) : Option Nat := do
  let a ← hexDigit? a
  let b ← hexDigit? b
  let c ← hexDigit? c
  let d ← hexDigit? d
  return 4096 * a + 256 * b + 16 * c + d

/-- The part put in front of the parts that were read. -/
def consPart (part : Part) : List Part × Text → List Part × Text
  | (parts, rest) => (part :: parts, rest)

/-- The parts up to the closing quote, and what follows it.  Control characters
have to be escaped. -/
def readParts? : Text → Option (List Part × Text)
  | [] => none
  | '\\' :: 'u' :: a :: b :: c :: d :: r =>
    match code? a b c d with
    | some n => (readParts? r).map (consPart (.code n))
    | none => none
  | '\\' :: e :: r =>
    match ofEscape? e with
    | some c => (readParts? r).map (consPart (.char c))
    | none => none
  | c :: r =>
    if c = '"' then some ([], r)
    else if c = '\\' || c.toNat < 0x20 then none
    else (readParts? r).map (consPart (.char c))

/-- The first code of a pair. -/
def isHighCode (n : Nat) : Bool := 0xd800 ≤ n && n < 0xdc00

/-- The second code of a pair. -/
def isLowCode (n : Nat) : Bool := 0xdc00 ≤ n && n < 0xe000

/-- The text of parts; a first or second code of a pair never stands alone. -/
def joinParts? : List Part → Option Text
  | [] => some []
  | .char c :: r => (joinParts? r).map (c :: ·)
  | .code m :: .code n :: r =>
    if isHighCode m then
      if isLowCode n then
        (joinParts? r).map
          (Char.ofNat (0x10000 + 0x400 * (m - 0xd800) + (n - 0xdc00)) :: ·)
      else none
    else if isLowCode m then none
    else (joinParts? (.code n :: r)).map (Char.ofNat m :: ·)
  | .code m :: r =>
    if isHighCode m || isLowCode m then none
    else (joinParts? r).map (Char.ofNat m :: ·)

/-- The text up to the closing quote of a string, and what follows that quote. -/
def closeString? (t : Text) : Option (Text × Text) := do
  let (parts, rest) ← readParts? t
  let text ← joinParts? parts
  return (text, rest)

end Questionnaire.Json
