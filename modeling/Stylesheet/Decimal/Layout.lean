/-
  Stylesheet.Decimal.Layout
  ─────────────────────────
  **HOW A DOUBLE IS WRITTEN.**

  The digits come from `shortest`; this module decides where the point
  goes, when an exponent is used and how the values that are no numbers are
  spelled.  The decisions stand in one record.
-/
import Stylesheet.Decimal.Shortest

namespace Stylesheet.Decimal

/-- The decisions of a way to write doubles. -/
structure Layout where
  /-- The least decimal exponent written without an exponent part. -/
  least : Int := -4
  /-- The first decimal exponent above those written without one. -/
  above : Int := 16
  /-- The least number of digits of an exponent part. -/
  exponentDigits : Nat := 2
  /-- What is not a number. -/
  nan : String := "nan"
  /-- The positive infinity. -/
  infinity : String := "inf"

/-- The way values are written inside a sheet and inside messages. -/
def Layout.plain : Layout := {}

/-- The way values are written in a JSON document. -/
def Layout.json : Layout := { nan := "NaN", infinity := "Infinity" }

/-- Zeros, `n` of them. -/
def zeros (n : Nat) : List Char := List.replicate n '0'

/-- Digits with the point behind the first `point` of them; zeros fill the
places between the point and the digits. -/
def positional (digits : List Char) (point : Int) : List Char :=
  if point ≤ 0 then '0' :: '.' :: zeros (-point).toNat ++ digits
  else
    let whole := point.toNat
    if digits.length ≤ whole then
      digits ++ zeros (whole - digits.length) ++ ['.', '0']
    else digits.take whole ++ '.' :: digits.drop whole

/-- An exponent part: a sign, and at least so many digits. -/
def exponentPart (least : Nat) (exponent : Int) : List Char :=
  let digits := Nat.toDigits 10 exponent.natAbs
  'e' :: (if exponent < 0 then '-' else '+') :: zeros (least - digits.length) ++ digits

/-- Digits with the point behind the first and an exponent part. -/
def scientific (layout : Layout) (digits : List Char) (exponent : Int) : List Char :=
  match digits with
  | [] => []
  | [d] => d :: exponentPart layout.exponentDigits exponent
  | d :: rest => d :: '.' :: rest ++ exponentPart layout.exponentDigits exponent

/-- A positive number `digits · 10^exponent`. -/
def Layout.magnitude (layout : Layout) (number : Nat) (exponent : Int) : List Char :=
  let all := Nat.toDigits 10 number
  let point : Int := all.length + exponent
  let digits := (all.reverse.dropWhile (· = '0')).reverse
  if layout.least < point ∧ point ≤ layout.above then positional digits point
  else scientific layout digits (point - 1)

/-- The text of a double. -/
def Layout.text (layout : Layout) (x : Float) : String :=
  let signed (negative : Bool) (s : List Char) :=
    String.ofList (if negative then '-' :: s else s)
  match Binary64.ofFloat x with
  | .nan => layout.nan
  | .infinity negative => signed negative layout.infinity.toList
  | .finite negative m q =>
      if m = 0 then signed negative ['0', '.', '0']
      else
        let (digits, exponent) := shortest m q
        signed negative (layout.magnitude digits exponent)

end Stylesheet.Decimal
