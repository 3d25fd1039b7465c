import Questionnaire.Template.Key
import Questionnaire.Text.Blank

/-!
# Written pairs

A template is a sequence of pairs, each a key, a colon and a quoted value, with
blanks and comments between them.  A comment goes from a number sign to the end
of its line.  Within a value a quote is written with a backslash before it, and
every other character, a backslash included, stands for itself.

## Main definitions

* `Trivia.split` — the blanks and comments at the start of a text.
* `Value.escape`, `Value.close?` — a value between its quotes.
* `Pair`, `Pair.written` — a pair with the blanks inside it.
* `Pair.split` — the pair at the start of a text.
* `PairFault` — why there is none.

## Main results

* `Pair.written_append` — a text that begins with a pair is the written pair and
  what follows it.
-/

namespace Questionnaire

open Text

/-! ### Trivia -/

/-- The blanks and comments at the start of a text, and the rest; `inComment` says
whether the text begins within a comment. -/
def Trivia.splitFrom (inComment : Bool) : Text → Text × Text
  | [] => ([], [])
  | c :: r =>
    if inComment || isBlank c || c == '#' then
      let (trivia, rest) := splitFrom (c != '\n' && (inComment || c == '#')) r
      (c :: trivia, rest)
    else ([], c :: r)

/-- The blanks and comments at the start of a text, and the rest. -/
def Trivia.split (t : Text) : Text × Text := splitFrom false t

theorem Trivia.splitFrom_append (inComment : Bool) (t : Text) :
    (splitFrom inComment t).1 ++ (splitFrom inComment t).2 = t := by
  induction t generalizing inComment with
  | nil => rfl
  | cons c r ih =>
    rw [splitFrom]
    split
    · simp [ih]
    · rfl

/-- Trivia and rest make up the text. -/
@[simp] theorem Trivia.split_append (t : Text) : (split t).1 ++ (split t).2 = t :=
  splitFrom_append false t

/-! ### Values -/

/-- A value as it is written between its quotes. -/
def Value.escape : Text → Text
  | [] => []
  | c :: r => if c = '"' then '\\' :: '"' :: escape r else c :: escape r

/-- The value that ends at the first quote without a backslash directly before it,
and what follows that quote. -/
def Value.close? : Text → Option (Text × Text)
  | [] => none
  | '\\' :: '"' :: r => (close? r).map fun (value, rest) => ('"' :: value, rest)
  | c :: r =>
    if c = '"' then some ([], r)
    else (close? r).map fun (value, rest) => (c :: value, rest)

theorem Value.escape_append {t value rest : Text} (h : close? t = some (value, rest)) :
    escape value ++ '"' :: rest = t := by
  fun_induction close? t generalizing value with
  | case1 => simp at h
  | case2 r ih =>
    obtain ⟨⟨v, u⟩, hv, he⟩ := Option.map_eq_some_iff.1 h
    obtain ⟨rfl, rfl⟩ := Prod.mk.inj he
    simp [escape, ih hv]
  | case3 r =>
    obtain ⟨rfl, rfl⟩ := Prod.mk.inj (Option.some.inj h)
    rfl
  | case4 c r _ hc ih =>
    obtain ⟨⟨v, u⟩, hv, he⟩ := Option.map_eq_some_iff.1 h
    obtain ⟨rfl, rfl⟩ := Prod.mk.inj he
    simp [escape, hc, ih hv]

/-! ### Pairs -/

/-- A pair as it stands in a template. -/
structure Pair where
  /-- The key. -/
  key : Key
  /-- The blanks between the key and the colon. -/
  beforeColon : Text
  /-- The blanks between the colon and the value. -/
  afterColon : Text
  /-- The value. -/
  value : Text
  deriving DecidableEq, Repr

/-- Why there is no pair at the start of a text. -/
inductive PairFault where
  /-- The first word is no key. -/
  | unknownKey (word : Text)
  /-- The key is not followed by a colon. -/
  | missingColon (key : Key)
  /-- The colon is not followed by a quote. -/
  | missingQuote
  /-- The value is never closed. -/
  | unterminated
  deriving DecidableEq, Repr

/-- What is said about a text without a pair at its start. -/
def PairFault.message : PairFault → Text
  | .unknownKey word => "unknown key '".toList ++ word ++ ['\'']
  | .missingColon key => "expected ':' after ".toList ++ key.spelling
  | .missingQuote => "expected '\"' to start the value".toList
  | .unterminated => "unterminated value: missing closing '\"'".toList

namespace Pair

/-- The text of a pair. -/
def written (p : Pair) : Text :=
  p.key.spelling ++ p.beforeColon ++ ':' :: p.afterColon ++ '"' :: Value.escape p.value ++ ['"']

/-- A character of the word at a key's place: anything but a blank and a colon. -/
def isKeyChar (c : Char) : Bool := !(isBlank c || c == ':')

/-- The pair at the start of a text and what follows it.  Without one, the text
that could still be read and the fault directly behind it. -/
def split (t : Text) : Except (Text × PairFault) (Pair × Text) :=
  let word := t.takeWhile isKeyChar
  let rest := t.dropWhile isKeyChar
  match Key.ofSpelling? word with
  | none => .error ([], .unknownKey word)
  | some key =>
    let beforeColon := rest.takeWhile isBlank
    match rest.dropWhile isBlank with
    | ':' :: rest =>
      let afterColon := rest.takeWhile isBlank
      match rest.dropWhile isBlank with
      | '"' :: rest =>
        match Value.close? rest with
        | some (value, rest) => .ok (⟨key, beforeColon, afterColon, value⟩, rest)
        | none => .error (word ++ beforeColon ++ ':' :: afterColon, .unterminated)
      | _ => .error (word ++ beforeColon ++ ':' :: afterColon, .missingQuote)
    | _ => .error (word ++ beforeColon, .missingColon key)

/-- A text that begins with a pair is the written pair and what follows it. -/
theorem written_append {t rest : Text} {p : Pair} (h : split t = .ok (p, rest)) :
    p.written ++ rest = t := by
  simp only [split] at h
  split at h
  · cases h
  · next key hkey =>
    split at h
    · next r hcolon =>
      split at h
      · next r' hquote =>
        split at h
        · next value u hvalue =>
          cases h
          have h1 := List.takeWhile_append_dropWhile (p := isKeyChar) (l := t)
          have h2 := List.takeWhile_append_dropWhile (p := isBlank) (l := t.dropWhile isKeyChar)
          have h3 := List.takeWhile_append_dropWhile (p := isBlank) (l := r)
          rw [hcolon] at h2
          rw [hquote, ← Value.escape_append hvalue] at h3
          rw [written, Key.spelling_of_ofSpelling? hkey]
          conv => rhs; rw [← h1, ← h2, ← h3]
          simp only [List.append_assoc, List.cons_append, List.nil_append]
        · cases h
      · cases h
    · cases h

/-- What follows a pair is shorter than the text. -/
theorem length_lt_of_split {t rest : Text} {p : Pair} (h : split t = .ok (p, rest)) :
    rest.length < t.length := by
  rw [← written_append h]
  simp only [written, List.length_append, List.length_cons]
  omega

end Pair

end Questionnaire
