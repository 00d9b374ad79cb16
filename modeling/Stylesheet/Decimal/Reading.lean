/-
  Stylesheet.Decimal.Reading
  ──────────────────────────
  **READING DECIMALS.**

  A decimal is digits and a power of ten; it is rounded to the nearest
  double.  Decimals beyond the doubles are told from the number of their
  digits alone, so that no power with a huge exponent is ever computed.
-/

namespace Stylesheet.Decimal

/-! ## §1. Digits. -/

/-- The number that decimal digits stand for. -/
def digitsValue (digits : List Char) : Nat :=
  digits.foldl (fun n c => 10 * n + (c.toNat - '0'.toNat)) 0

/-- The integer that a sign and decimal digits stand for. -/
def signedValue (negative : Bool) (digits : List Char) : Int :=
  if negative then -(digitsValue digits : Int) else digitsValue digits

/-! ## §2. Rounding. -/

/-- The double nearest to `± number · 10^exponent`. -/
def toDouble (negative : Bool) (number : Nat) (exponent : Int) : Float :=
  let places : Int := (Nat.toDigits 10 number).length + exponent
  let magnitude : Float :=
    if number = 0 ∨ places < -400 then 0.0
    else if 400 < places then 1.0 / 0.0
    else Float.ofScientific number (exponent < 0) exponent.natAbs
  if negative then -magnitude else magnitude

/-- The double nearest to an integer. -/
def ofInt (n : Int) : Float :=
  toDouble (n < 0) n.natAbs 0

/-! ## §3. Signs. -/

/-- A sign, if there is one, and what follows it. -/
def takeSign : List Char → Bool × List Char
  | '-' :: rest => (true, rest)
  | '+' :: rest => (false, rest)
  | rest => (false, rest)

end Stylesheet.Decimal
