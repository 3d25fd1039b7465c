import Questionnaire.Literal.Color
import Questionnaire.Literal.Interval
import Questionnaire.Literal.Rating
import Questionnaire.Literal.Size
import Questionnaire.Template.Key

/-!
# Settings

A template may set the values of a fixed list of settings.  A setting holds the
last value given for it, but every keybind is kept.

## Main definitions

* `Settings`, `Settings.initial` — the settings, and those of an empty template.
* `SettingFault` — why a value does not fit its setting.
* `Settings.set setting value` — the settings after one more value.
-/

namespace Questionnaire

open Text

/-- The value of every setting. -/
structure Settings where
  /-- The source of new images. -/
  defaultSource : Text
  /-- The rating of new images. -/
  defaultSafety : Safety
  /-- The bound on open files. -/
  maxOpenFiles : Nat
  /-- The time between writes. -/
  updateInterval : Interval
  /-- The bytes for images in memory. -/
  maxImageBuffer : Nat
  /-- The first background color. -/
  backgroundOne : Color
  /-- The second background color. -/
  backgroundTwo : Color
  /-- The width of a background square in pixels. -/
  squareWidth : Nat
  /-- The scaling quality. -/
  defaultQuality : Quality
  /-- The keybinds in order. -/
  keybinds : List Text
  deriving DecidableEq, Repr

/-- The settings of an empty template. -/
def Settings.initial : Settings where
  defaultSource := []
  defaultSafety := .safe
  maxOpenFiles := 100
  updateInterval := .ofParts 1 0
  maxImageBuffer := 100 * 1048576
  backgroundOne := .ofBytes 0x99 0x99 0x99
  backgroundTwo := .ofBytes 0x66 0x66 0x66
  squareWidth := 16
  defaultQuality := .smooth
  keybinds := []

/-- Why a value does not fit its setting. -/
inductive SettingFault where
  /-- The value is no rating. -/
  | safety (value : Text)
  /-- The value is no scaling quality. -/
  | quality (value : Text)
  /-- The value is no natural number, or too great. -/
  | number (value : Text)
  /-- The width is zero. -/
  | zeroWidth
  /-- The value is no length of time. -/
  | seconds (value : Text)
  /-- The value is no size. -/
  | size (fault : Size.Fault)
  /-- The value is no color. -/
  | color (fault : Color.Fault)
  deriving DecidableEq, Repr

/-- What is said about a value that does not fit its setting. -/
def SettingFault.message : SettingFault → Text
  | .safety value => Safety.refusal value
  | .quality value => Quality.refusal value
  | .number value => "invalid non-negative integer '".toList ++ value ++ ['\'']
  | .zeroWidth => "width must be greater than 0".toList
  | .seconds value => "invalid number of seconds '".toList ++ value ++ ['\'']
  | .size fault => fault.message
  | .color fault => fault.message

namespace Settings

/-- The greatest bound on open files. -/
def greatestOpenFiles : Nat := 0xffffffffffffffff

/-- The greatest width of a square. -/
def greatestWidth : Nat := 0xffffffff

/-- What was read, or the fault if nothing could be read. -/
def orFault {α : Type} (fault : SettingFault) : Option α → Except SettingFault α
  | some a => .ok a
  | none => .error fault

/-- The natural number of at most `bound` that a value stands for, blanks at its
ends aside. -/
def readNumber (bound : Nat) (value : Text) : Except SettingFault Nat :=
  orFault (.number (trim value)) (Numeral.read? bound (trim value))

/-- The width that a value stands for, which is positive. -/
def readWidth (value : Text) : Except SettingFault Nat := do
  let width ← readNumber greatestWidth value
  if width = 0 then .error .zeroWidth else .ok width

/-- The color that a value stands for. -/
def readColor (value : Text) : Except SettingFault Color :=
  (Color.read value).mapError .color

/-- The settings after one more value. -/
def set (setting : Setting) (value : Text) (s : Settings) : Except SettingFault Settings :=
  match setting with
  | .defaultSource => .ok { s with defaultSource := value }
  | .defaultSafety => do
    let safety ← orFault (.safety (trim value)) (Safety.read? (trim value))
    return { s with defaultSafety := safety }
  | .maxOpenFiles => do
    let count ← readNumber greatestOpenFiles value
    return { s with maxOpenFiles := count }
  | .updateInterval => do
    let interval ← orFault (.seconds (trim value)) (Interval.read? value)
    return { s with updateInterval := interval }
  | .maxImageBufsize => do
    let bytes ← (Size.read value).mapError .size
    return { s with maxImageBuffer := bytes }
  | .backgroundColorOne => do
    let color ← readColor value
    return { s with backgroundOne := color }
  | .backgroundColorTwo => do
    let color ← readColor value
    return { s with backgroundTwo := color }
  | .backgroundSquareWidth => do
    let width ← readWidth value
    return { s with squareWidth := width }
  | .keybind => .ok { s with keybinds := s.keybinds ++ [value] }
  | .defaultImageQuality => do
    let quality ← orFault (.quality (trim value)) (Quality.read? (trim value))
    return { s with defaultQuality := quality }

end Settings

end Questionnaire
