/-
  Stylesheet.Decimal.Shortest
  ───────────────────────────
  **THE SHORTEST DECIMAL THAT READS BACK.**

  A finite double is `m · 2^q`.  The reals that round to it lie between the
  middles to its two neighbours, ends included when `m` is even.  Of the
  decimals with one, two, … seventeen digits the first that lies there is
  taken; of two with equally many digits the nearer one, and at equal
  distance the even one.  All comparisons are between natural numbers: both
  sides are multiplied by the same powers of two and ten.
-/

namespace Stylesheet.Decimal

/-! ## §1. Doubles as integers. -/

/-- What the bits of a double say. -/
inductive Binary64 where
  /-- Not a number. -/
  | nan
  /-- An infinity. -/
  | infinity (negative : Bool)
  /-- The number `± significand · 2 ^ exponent`. -/
  | finite (negative : Bool) (significand : Nat) (exponent : Int)
  deriving Repr, DecidableEq

/-- Take the bits of a double apart. -/
def Binary64.ofFloat (x : Float) : Binary64 :=
  let bits := x.toBits.toNat
  let negative : Bool := bits / Nat.pow 2 63 = 1
  let biased : Nat := bits / Nat.pow 2 52 % Nat.pow 2 11
  let fraction := bits % Nat.pow 2 52
  if biased = 2047 then
    if fraction = 0 then .infinity negative else .nan
  else if biased = 0 then .finite negative fraction (-1074)
  else .finite negative (Nat.pow 2 52 + fraction) ((biased : Int) - 1075)

/-- The integer that a double is, if it is one; both zeros are zero. -/
def Binary64.integer? : Binary64 → Option Int
  | .finite negative m q =>
      let scaled := m * Nat.pow 2 q.toNat
      let unit := Nat.pow 2 (-q).toNat
      let whole : Int := scaled / unit
      if scaled % unit = 0 then some (if negative then -whole else whole) else none
  | _ => none

/-! ## §2. The interval of a double on a decimal grid. -/

/-- A number and the ends of the interval around it, as multiples of one
unit; `scale` units make a step of the grid. -/
structure Interval where
  /-- The lower end. -/
  low : Nat
  /-- The number itself. -/
  mid : Nat
  /-- The upper end. -/
  high : Nat
  /-- Whether the ends belong to the interval. -/
  closed : Bool
  /-- The size of a step of the grid. -/
  scale : Nat

/-- The interval of `m · 2^q` on the grid of the multiples of `10^p`.  The
gap below a power of two is half the gap above it. -/
def interval (m : Nat) (q p : Int) : Interval :=
  let unit := Nat.pow 2 (q - 2).toNat * Nat.pow 10 (-p).toNat
  { low := (4 * m - if m = Nat.pow 2 52 ∧ -1074 < q then 1 else 2) * unit
    mid := 4 * m * unit
    high := (4 * m + 2) * unit
    closed := m % 2 = 0
    scale := Nat.pow 2 (2 - q).toNat * Nat.pow 10 p.toNat }

namespace Interval

/-- Whether the `k`-th point of the grid lies in the interval. -/
def contains (i : Interval) (k : Nat) : Bool :=
  if i.closed then i.low ≤ k * i.scale && k * i.scale ≤ i.high
  else i.low < k * i.scale && k * i.scale < i.high

/-- The point of the grid that stands for the number: one of its two
neighbours, if that lies in the interval. -/
def point? (i : Interval) : Option Nat :=
  let below := i.mid / i.scale
  let gapBelow := i.mid - below * i.scale
  let gapAbove := (below + 1) * i.scale - i.mid
  let nearer :=
    if gapBelow < gapAbove ∨ (gapBelow = gapAbove ∧ below % 2 = 0) then below else below + 1
  let farther := if nearer = below then below + 1 else below
  if i.contains nearer then some nearer
  else if i.contains farther then some farther
  else none

end Interval

/-! ## §3. The search. -/

/-- The number of decimal digits before the point of `m · 2^q`; negative
when zeros follow the point. -/
def magnitude (m : Nat) (q : Int) : Int :=
  let shifted := m * Nat.pow 2 q.toNat * Nat.pow 10 340 / Nat.pow 2 (-q).toNat
  ((Nat.toDigits 10 shifted).length : Int) - 340

/-- The shortest decimal of `m · 2^q`: digits and the power of ten that
multiplies them. -/
def shortest (m : Nat) (q : Int) : Nat × Int :=
  search 17 1
where
  /-- Try the grids that give `digits`, `digits + 1`, … digits. -/
  search : (tries : Nat) → (digits : Nat) → Nat × Int
  | 0, _ => (m, 0)
  | tries + 1, digits =>
      let p := magnitude m q - digits
      match (interval m q p).point? with
      | some k => (k, p)
      | none => search tries (digits + 1)

end Stylesheet.Decimal
