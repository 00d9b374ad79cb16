/-
  Stylesheet.Text.Casing
  ──────────────────────
  **LOWERING AND CAPITALISING A TEXT.**

  Lowering maps character by character, but for one letter whose image
  hangs on its neighbours: a capital sigma becomes the final form `ς` at
  the end of a word and `σ` elsewhere.  It ends a word when a cased
  character comes before it and none comes after it, case-ignorable
  characters not counting on either side.

  Main statement: `lowerFrom_append_of_not_meetsCased`, a text that begins
  no word is lowered apart from the text before it.
-/
import Stylesheet.Unicode.Cased
import Stylesheet.Unicode.Lowercase
import Stylesheet.Unicode.Uppercase

namespace Stylesheet.Text

open Stylesheet.Unicode

/-! ## §1. Lowering. -/

/-- Whether a word goes on here: the first character that is not
case-ignorable is cased. -/
def meetsCased : List Char → Bool
  | [] => false
  | c :: rest => if isCaseIgnorable c then meetsCased rest else isCased c

/-- Whether a word is under way behind `c`, when `inWord` says so before it. -/
def wordAfter (inWord : Bool) (c : Char) : Bool :=
  if isCaseIgnorable c then inWord else isCased c

/-- The lower-case image of `c` between a word that is under way or not and
the text after it. -/
def lowerAt (inWord : Bool) (c : Char) (rest : List Char) : List Char :=
  if c = 'Σ' then [if inWord && !meetsCased rest then 'ς' else 'σ'] else lowerChar c

/-- The lower-case form of a text that follows a word under way or not. -/
def lowerFrom (inWord : Bool) : List Char → List Char
  | [] => []
  | c :: rest => lowerAt inWord c rest ++ lowerFrom (wordAfter inWord c) rest

/-- The lower-case form of a text. -/
def lower (s : List Char) : List Char :=
  lowerFrom false s

/-! ## §2. Capitalising. -/

/-- A text with its first character in upper case. -/
def capitalize : List Char → List Char
  | [] => []
  | c :: rest => upperChar c ++ rest

/-! ## §3. Laws. -/

theorem meetsCased_append_of_not {tail : List Char} (h : meetsCased tail = false)
    (s : List Char) : meetsCased (s ++ tail) = meetsCased s := by
  induction s with
  | nil => exact h
  | cons c rest ih => simp only [List.cons_append, meetsCased, ih]

/-- **A text that begins no word is lowered apart from what stands before
it.** -/
theorem lowerFrom_append_of_not_meetsCased {tail : List Char}
    (h : meetsCased tail = false) (s : List Char) (inWord : Bool) :
    lowerFrom inWord (s ++ tail) =
      lowerFrom inWord s ++ lowerFrom (s.foldl wordAfter inWord) tail := by
  induction s generalizing inWord with
  | nil => rfl
  | cons c rest ih =>
    simp only [List.cons_append, lowerFrom, lowerAt, List.foldl_cons, ih,
      meetsCased_append_of_not h, List.append_assoc]

end Stylesheet.Text
