import Questionnaire.Number.Decimal
import Questionnaire.Text.Blank
import Questionnaire.Text.Lowercase
import Questionnaire.Text.Quoted

/-!
# Colors

A color has a red, a green and a blue channel between zero and one.  It is given
as six hexadecimal digits after a number sign, or as a color space and three
components.

## Main definitions

* `Color` — the three channels.
* `Color.ofBytes`, `Color.toBytes` — channels of eight bits.
* `Color.hex` — the six digits of a color.
* `Color.Space` — the color spaces and their conversion to channels.
* `Color.Fault` — why a text is not a color.
* `Color.read` — the color that a text stands for.
-/

namespace Questionnaire

/-- A color by its channels. -/
structure Color where
  /-- The red channel. -/
  red : Binary64
  /-- The green channel. -/
  green : Binary64
  /-- The blue channel. -/
  blue : Binary64
  deriving DecidableEq, Repr

namespace Color

open Text

/-! ### Channels of eight bits -/

/-- The channel of a byte: its part of 255. -/
def channelOfByte (n : Nat) : Binary64 := .div (.ofNat n) (.ofNat 255)

/-- The byte nearest to 255 times a channel, a half going up; the channel is held
between zero and one, and one that is not a number counts as zero. -/
def byteOfChannel (x : Binary64) : Nat :=
  (Binary64.mul x.clampUnit (.ofNat 255)).toNatBy roundHalfUp

/-- The color of three bytes. -/
def ofBytes (red green blue : Nat) : Color :=
  ⟨channelOfByte red, channelOfByte green, channelOfByte blue⟩

/-- The bytes of the channels in the order red, green, blue. -/
def toBytes (c : Color) : List Nat :=
  [byteOfChannel c.red, byteOfChannel c.green, byteOfChannel c.blue]

/-- The number sign and two lowercase hexadecimal digits for each channel. -/
def hex (c : Color) : Text :=
  '#' :: c.toBytes.flatMap fun byte => Numeral.pad '0' 2 (hexDigits byte)

/-! ### Color spaces -/

/-- The spaces in which components may be given. -/
inductive Space where
  /-- Red, green and blue, each up to 255. -/
  | rgb
  /-- A hue up to 360, and a saturation and a value up to 100. -/
  | hsv
  /-- A hue up to 360, and a lightness and a saturation up to 100. -/
  | hls
  deriving DecidableEq, Repr

/-- The space of a word. -/
def Space.read? (word : Text) : Option Space :=
  if word = "rgb".toList then some .rgb
  else if word = "hsv".toList then some .hsv
  else if word = "hls".toList then some .hls
  else none

/-- The greatest value of each component. -/
def Space.bounds : Space → Nat × Nat × Nat
  | .rgb => (255, 255, 255)
  | .hsv => (360, 100, 100)
  | .hls => (360, 100, 100)

/-- The color of a hue, a saturation and a value, all between zero and one.  The
circle of hues has six sectors; in each one channel is at the value, one at its
lowest, and one moves between the two. -/
def ofHsv (h s v : Binary64) : Color :=
  if s.isZero then ⟨v, v, v⟩
  else
    let one := Binary64.ofNat 1
    let turn := h.mul (.ofNat 6)
    let sector := turn.floor
    let f := turn.sub sector
    let p := v.mul (one.sub s)
    let q := v.mul (one.sub (s.mul f))
    let t := v.mul (one.sub (s.mul (one.sub f)))
    match sector.toNatBy (· / ·) % 6 with
    | 0 => ⟨v, t, p⟩
    | 1 => ⟨q, v, p⟩
    | 2 => ⟨p, v, t⟩
    | 3 => ⟨p, q, v⟩
    | 4 => ⟨t, p, v⟩
    | _ => ⟨v, p, q⟩

/-- The quotient of two small numbers. -/
def part (a b : Nat) : Binary64 := .div (.ofNat a) (.ofNat b)

/-- A channel at a place on the circle of hues: it rises from `low` to `high` over
the first sixth, stays there up to the half, and falls back up to two thirds. -/
def hueChannel (low high place : Binary64) : Binary64 :=
  let hue := place.wrapUnit
  let span := high.sub low
  if hue.lt (part 1 6) then low.add ((span.mul hue).mul (.ofNat 6))
  else if hue.lt (part 1 2) then high
  else if hue.lt (part 2 3) then low.add ((span.mul ((part 2 3).sub hue)).mul (.ofNat 6))
  else low

/-- The color of a hue, a lightness and a saturation, all between zero and
one. -/
def ofHls (h l s : Binary64) : Color :=
  if s.isZero then ⟨l, l, l⟩
  else
    let high :=
      if l.le (part 1 2) then l.mul ((Binary64.ofNat 1).add s)
      else (l.add s).sub (l.mul s)
    let low := ((Binary64.ofNat 2).mul l).sub high
    ⟨hueChannel low high (h.add (part 1 3)), hueChannel low high h,
      hueChannel low high (h.sub (part 1 3))⟩

/-- The color of three components between zero and one. -/
def Space.color : Space → Binary64 → Binary64 → Binary64 → Color
  | .rgb, x, y, z => ⟨x, y, z⟩
  | .hsv, x, y, z => ofHsv x y z
  | .hls, x, y, z => ofHls x y z

/-! ### Reading -/

/-- Why a text is not a color. -/
inductive Fault where
  /-- A number sign is not followed by six hexadecimal digits. -/
  | hex (text : Text)
  /-- The text is neither of the two forms. -/
  | form (text : Text)
  /-- The first word is no color space. -/
  | space (word : Text)
  /-- A component is no number. -/
  | component (field : Text)
  /-- A component is below zero or above its bound. -/
  | range (field : Text) (bound : Nat)
  deriving DecidableEq, Repr

/-- What is said about a text that is not a color. -/
def Fault.message : Fault → Text
  | .hex t => "invalid hex color '".toList ++ t ++ "': expected '#rrggbb'".toList
  | .form t =>
    "invalid color '".toList ++ t ++
      "': expected '#rrggbb' or '<rgb|hsv|hls> <v1> <v2> <v3>'".toList
  | .space word =>
    "unknown color space '".toList ++ word ++ "': expected rgb, hsv or hls".toList
  | .component field => "invalid color component '".toList ++ field ++ ['\'']
  | .range field bound =>
    "color component ".toList ++ field ++ " out of range [0, ".toList ++
      Numeral.write bound ++ [']']

/-- The color of six hexadecimal digits. -/
def ofHex? (digits : Text) : Option Color :=
  match digits.mapM hexDigit? with
  | some [a, b, c, d, e, f] => some (ofBytes (16 * a + b) (16 * c + d) (16 * e + f))
  | _ => none

/-- The part of its bound that a component is. -/
def readComponent (field : Text) (bound : Nat) : Except Fault Binary64 :=
  match Binary64.read? field with
  | none => .error (.component field)
  | some x =>
    if Binary64.le (.zero false) x && x.le (.ofNat bound) then .ok (x.div (.ofNat bound))
    else .error (.range field bound)

/-- The color that a text stands for, blanks at its ends and case aside. -/
def read (t : Text) : Except Fault Color :=
  let lower := lowercase (trim t)
  match lower with
  | '#' :: digits =>
    match ofHex? digits with
    | some color => .ok color
    | none => .error (.hex lower)
  | _ =>
    match words lower with
    | [name, a, b, c] =>
      match Space.read? name with
      | none => .error (.space name)
      | some space => do
        let x ← readComponent a space.bounds.1
        let y ← readComponent b space.bounds.2.1
        let z ← readComponent c space.bounds.2.2
        return space.color x y z
    | _ => .error (.form (trim t))

end Color

end Questionnaire
