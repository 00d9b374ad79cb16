/-
  Stylesheet.Text.Quoted
  ──────────────────────
  **TEXT IN QUOTES, AS MESSAGES SHOW IT.**

  A text is shown between single quotes, or between double quotes when it
  holds a single one and no double one.  The quote in use and the backslash
  are written behind a backslash, line ends and tabs by their letters, and
  every other character that does not print by its number; so is half of a
  pair.
-/
import Stylesheet.Text.Half
import Stylesheet.Unicode.Printable

namespace Stylesheet.Text

open Stylesheet.Unicode

/-- The quote that a text is shown in. -/
def quoteMark (s : List Char) : Char :=
  if '\'' ∈ s ∧ '"' ∉ s then '"' else '\''

/-- A character inside quotes. -/
def escapeIn (mark c : Char) : List Char :=
  if c = mark ∨ c = '\\' then ['\\', c]
  else if c = '\n' then ['\\', 'n']
  else if c = '\r' then ['\\', 'r']
  else if c = '\t' then ['\\', 't']
  else if isPrintable c then [c]
  else if c.toNat < 0x100 then '\\' :: 'x' :: hex 2 c.toNat
  else if c.toNat < 0x10000 then '\\' :: 'u' :: hex 4 c.toNat
  else '\\' :: 'U' :: hex 8 c.toNat

/-- A point inside quotes. -/
def Point.quotedIn (mark : Char) : Point → List Char
  | .character c => escapeIn mark c
  | .half code => '\\' :: 'u' :: hex 4 code

/-- A text in quotes. -/
def quoted (s : List Char) : List Char :=
  let mark := quoteMark s
  mark :: (points s).flatMap (Point.quotedIn mark) ++ [mark]

/-- A string in quotes, as messages show it. -/
def quote (s : String) : String :=
  String.ofList (quoted s.toList)

end Stylesheet.Text
