/-
  Stylesheet.Lightness
  ────────────────────
  **MAKING COLOURS LIGHTER OR DARKER.**

  A colour of six hexadecimal digits is taken to hue, saturation and value;
  the value is multiplied by a factor and kept between zero and one; hue and
  saturation stay.  All arithmetic is on doubles, and its order matters: the
  last bits of the channels decide how they round.
-/
import Stylesheet.Decimal.Reading
import Stylesheet.Text.Trim
import Stylesheet.Value.Text

namespace Stylesheet

/-! ## §1. Factors and faults. -/

/-- What a value is multiplied by. -/
inductive Factor where
  /-- An integer. -/
  | int (n : Int)
  /-- A double. -/
  | float (x : Float)
  deriving DecidableEq

namespace Factor

/-- The scalar that a factor is. -/
def scalar : Factor → Scalar
  | .int n => .int n
  | .float x => .float x

/-- Whether a factor is below zero. -/
def isNegative : Factor → Bool
  | .int n => n < 0
  | .float x => x < 0.0

/-- The nearest double, if it is finite or was infinite from the start. -/
def toDouble? : Factor → Option Float
  | .float x => some x
  | .int n =>
      let x := Decimal.ofInt n
      if x.isInf then none else some x

end Factor

/-- Why a colour cannot be changed. -/
inductive LightnessError where
  /-- The factor is below zero. -/
  | negativeFactor (factor : Factor)
  /-- It is, and has too many digits to be named. -/
  | tooManyDigits
  /-- The colour does not consist of six hexadecimal digits. -/
  | notAColour (colour : String)
  /-- The factor is an integer beyond the doubles. -/
  | factorTooLarge
  /-- A channel of the result is no number. -/
  | notANumber
  deriving DecidableEq

/-- The wording of an error. -/
def LightnessError.message : LightnessError → String
  | .negativeFactor factor =>
      "Lightness factor must be non-negative, got " ++ factor.scalar.printed
  | .tooManyDigits => Text.tooManyDigits ""
  | .notAColour colour => "Expected a 6-digit hex colour, got " ++ Text.quote colour
  | .factorTooLarge => "int too large to convert to float"
  | .notANumber => "cannot convert float NaN to integer"

/-! ## §2. Colours. -/

/-- A colour by its red, green and blue parts, between zero and one. -/
structure Rgb where
  /-- The red part. -/
  red : Float
  /-- The green part. -/
  green : Float
  /-- The blue part. -/
  blue : Float

/-- A colour by hue, saturation and value, between zero and one. -/
structure Hsv where
  /-- The place on the colour circle. -/
  hue : Float
  /-- How far the colour is from grey. -/
  saturation : Float
  /-- The brightest part. -/
  value : Float

/-- The part of a colour that two hexadecimal digits stand for. -/
def channel? (high low : Char) : Option Float :=
  (Text.hexNumber? [high, low]).map fun n => Float.ofNat n / 255.0

/-- Read six hexadecimal digits behind an optional number sign; blanks around
them do not matter. -/
def Rgb.parse? (colour : String) : Option Rgb :=
  let trimmed := Text.trim colour.toList
  let digits :=
    match trimmed with
    | '#' :: rest => rest
    | _ => trimmed
  match digits with
  | [r₁, r₂, g₁, g₂, b₁, b₂] => do
      return ⟨← channel? r₁ r₂, ← channel? g₁ g₂, ← channel? b₁ b₂⟩
  | _ => none

/-- The greater of two doubles; the first when neither is greater. -/
def larger (x y : Float) : Float := if x < y then y else x

/-- The smaller of two doubles; the first when neither is smaller. -/
def smaller (x y : Float) : Float := if y < x then y else x

/-- A number between minus one and one, moved into the range from zero up to
one by adding one if it is negative. -/
def wrap (x : Float) : Float :=
  if x < 0.0 then x + 1.0 else if x == 0.0 then 0.0 else x

/-- The hue, saturation and value of a colour. -/
def Rgb.toHsv (colour : Rgb) : Hsv :=
  let ⟨r, g, b⟩ := colour
  let most := larger (larger r g) b
  let least := smaller (smaller r g) b
  let range := most - least
  if least == most then ⟨0.0, 0.0, most⟩
  else
    let rc := (most - r) / range
    let gc := (most - g) / range
    let bc := (most - b) / range
    let sixths :=
      if r == most then bc - gc
      else if g == most then 2.0 + rc - bc
      else 4.0 + gc - rc
    ⟨wrap (sixths / 6.0), range / most, most⟩

/-- The red, green and blue parts of a colour. -/
def Hsv.toRgb (colour : Hsv) : Rgb :=
  let ⟨h, s, v⟩ := colour
  if s == 0.0 then ⟨v, v, v⟩
  else
    let sector := (h * 6.0).toUInt64.toNat
    let f := h * 6.0 - Float.ofNat sector
    let p := v * (1.0 - s)
    let q := v * (1.0 - s * f)
    let t := v * (1.0 - s * (1.0 - f))
    match sector % 6 with
    | 0 => ⟨v, t, p⟩
    | 1 => ⟨q, v, p⟩
    | 2 => ⟨p, v, t⟩
    | 3 => ⟨p, q, v⟩
    | 4 => ⟨t, p, v⟩
    | _ => ⟨v, p, q⟩

/-! ## §3. Changing the lightness. -/

/-- The integer nearest to a double that is not negative, the even one of two
that are equally near. -/
def roundHalfEven (x : Float) : Nat :=
  let whole := x.toUInt64.toNat
  let rest := x - Float.ofNat whole
  if rest > 0.5 ∨ (rest == 0.5 ∧ whole % 2 = 1) then whole + 1 else whole

/-- The two hexadecimal digits of a part of a colour. -/
def channelDigits? (part : Float) : Option (List Char) :=
  if part.isNaN then none else some (Text.hex 2 (roundHalfEven (part * 255.0)))

/-- The text of a colour. -/
def Rgb.text? (colour : Rgb) : Option String := do
  let r ← channelDigits? colour.red
  let g ← channelDigits? colour.green
  let b ← channelDigits? colour.blue
  return String.ofList ('#' :: r ++ g ++ b)

/-- **A colour with its value multiplied by a factor.** -/
def scaleLightness (colour : String) (factor : Factor) : Except LightnessError String := do
  if factor.isNegative then
    throw (if factor.scalar.isWritable then .negativeFactor factor else .tooManyDigits)
  let some rgb := Rgb.parse? colour | throw (.notAColour colour)
  let some times := factor.toDouble? | throw .factorTooLarge
  let hsv := rgb.toHsv
  let value := smaller (larger (hsv.value * times) 0.0) 1.0
  let some text := (Hsv.toRgb { hsv with value }).text? | throw .notANumber
  return text

end Stylesheet
