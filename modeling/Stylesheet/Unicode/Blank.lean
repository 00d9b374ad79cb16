/-
  Stylesheet.Unicode.Blank
  ────────────────────────
  **BLANK CHARACTERS.**

  The characters that trimming removes and that separate the words of an
  at-rule: the ASCII controls U+0009 to U+000D and U+001C to U+001F, the
  space, and the spaces and line separators of the wider repertoire.
-/
import Stylesheet.Unicode.Range

namespace Stylesheet.Unicode

/-- The ranges of blank characters, ascending. -/
def blankRanges : List (Nat × Nat) :=
  [(0x9, 0xd), (0x1c, 0x20), (0x85, 0x85), (0xa0, 0xa0), (0x1680, 0x1680), (0x2000, 0x200a),
   (0x2028, 0x2029), (0x202f, 0x202f), (0x205f, 0x205f), (0x3000, 0x3000)]

/-- Whether a character is blank. -/
def isBlank (c : Char) : Bool :=
  inRanges blankRanges c.toNat

end Stylesheet.Unicode
