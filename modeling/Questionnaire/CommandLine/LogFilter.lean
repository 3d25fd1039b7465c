import Questionnaire.Text.Basic
import Questionnaire.Text.Lowercase

/-!
# Log filters

A log filter says what is logged.  It is given whole, or as one level for the four
parts of the program, or by the environment.

## Main definitions

* `LogOptions` — what the command line says about logging.
* `LogOptions.filter` — the filter in force.
-/

namespace Questionnaire

open Text

/-- What the command line says about logging. -/
structure LogOptions where
  /-- The level of all parts is `trace`. -/
  trace : Bool
  /-- The level of all parts is `debug`. -/
  debug : Bool
  /-- The level of all parts. -/
  level : Option Text
  /-- The whole filter. -/
  whole : Option Text
  deriving DecidableEq, Repr

namespace LogOptions

/-- Nothing is said about logging. -/
def silent : LogOptions := ⟨false, false, none, none⟩

/-- The parts of the program that log. -/
def parts : List Text :=
  ["tagtmpl".toList, "template".toList, "tags".toList, "logging".toList]

/-- The filter that sets one level for every part. -/
def ofLevel (level : Text) : Text :=
  [','].intercalate (parts.map fun part => part ++ ['='] ++ asciiLowercase level)

/-- The filter in force.  A whole filter comes first, then the two flags, then a
level, then the environment; otherwise the level is `info`. -/
def filter (environment : Option Text) (o : LogOptions) : Text :=
  match o.whole with
  | some whole => whole
  | none =>
    if o.trace then ofLevel "trace".toList
    else if o.debug then ofLevel "debug".toList
    else match o.level with
      | some level => ofLevel level
      | none => environment.getD (ofLevel "info".toList)

end LogOptions

end Questionnaire
