/-
  Stylesheet.Text.Integer
  ───────────────────────
  **INTEGERS AS TEXTS.**

  An integer has an optional sign and decimal digits of any script, which
  single low lines may group; blanks around it do not matter.  There is an
  end to how many digits are read, and written.

  Main statement: `toList_toString_int`, which characters an integer is
  written with.
-/
import Stylesheet.Unicode.Blank
import Stylesheet.Unicode.Digit

namespace Stylesheet

/-! ## §1. How many digits. -/

/-- The most decimal digits that an integer is written with or read from; the
sign does not count. -/
def maxDigits : Nat := 4300

namespace Text

open Stylesheet.Unicode

/-- The complaint about an integer with more digits, and what else is said of
it. -/
def tooManyDigits (detail : String) : String :=
  "Exceeds the limit (" ++ toString maxDigits ++ " digits) for integer string conversion" ++
    detail ++ "; use sys.set_int_max_str_digits() to increase the limit"

/-! ## §2. Reading. -/

/-- Whether a character may stand around an integer: a blank other than the
information separators. -/
def isMargin (c : Char) : Bool :=
  isBlank c && !('\x1c' ≤ c && c ≤ '\x1f')

/-- The values of digits, which single low lines may group. -/
def digits? : List Char → Option (List Nat)
  | [] => none
  | [c] => (digitValue? c).map fun d => [d]
  | c :: '_' :: rest => do return (← digitValue? c) :: (← digits? rest)
  | c :: rest => do return (← digitValue? c) :: (← digits? rest)

/-- The number with the given decimal digits. -/
def ofDigits (digits : List Nat) : Nat :=
  digits.foldl (fun n d => 10 * n + d) 0

/-- The number that digits stand for, if they are not too many. -/
def natural? (s : List Char) : Option Nat := do
  let digits ← digits? s
  if digits.length ≤ maxDigits then return ofDigits digits else none

/-- The integer that a text stands for. -/
def integer? (s : String) : Option Int :=
  let inner := ((s.toList.dropWhile isMargin).reverse.dropWhile isMargin).reverse
  match inner with
  | '-' :: rest => (natural? rest).map fun n => -(n : Int)
  | '+' :: rest => (natural? rest).map Int.ofNat
  | rest => (natural? rest).map Int.ofNat

/-! ## §3. Writing. -/

/-- **An integer is digits, behind a minus if it is negative.** -/
theorem toList_toString_int (n : Int) :
    (toString n).toList = (if n < 0 then ['-'] else []) ++ Nat.toDigits 10 n.natAbs := by
  cases n with
  | ofNat m => exact Nat.toList_repr
  | negSucc m =>
      rw [if_pos (Int.negSucc_lt_zero m)]
      show ("-" ++ Nat.repr (m + 1)).toList = ['-'] ++ Nat.toDigits 10 (m + 1)
      rw [String.toList_append, Nat.toList_repr]
      rfl

theorem mem_toString_int {n : Int} {c : Char} (h : c ∈ (toString n).toList) :
    c = '-' ∨ c.isDigit = true := by
  rw [toList_toString_int, List.mem_append] at h
  rcases h with h | h
  · split at h
    · exact Or.inl (List.mem_singleton.mp h)
    · cases h
  · exact Or.inr (Nat.isDigit_of_mem_toDigits (by decide) (by decide) h)

end Text

end Stylesheet
