/-
  Stylesheet.Json.Writer
  ──────────────────────
  **WRITING A JSON DOCUMENT.**

  Every item and every entry stands on a line of its own, two spaces deeper
  than its container; an empty container stays on one line.  In strings only
  quotes, backslashes and control characters are escaped.
-/
import Stylesheet.Decimal.Layout
import Stylesheet.Text.Hex
import Stylesheet.Value.Text

namespace Stylesheet.Json

/-! ## §1. Scalars. -/

/-- A character inside a string. -/
def escaped (c : Char) : List Char :=
  match c with
  | '"' => ['\\', '"']
  | '\\' => ['\\', '\\']
  | '\n' => ['\\', 'n']
  | '\r' => ['\\', 'r']
  | '\t' => ['\\', 't']
  | '\x08' => ['\\', 'b']
  | '\x0c' => ['\\', 'f']
  | c => if c.toNat < 0x20 then '\\' :: 'u' :: Text.hex 4 c.toNat else [c]

/-- A string. -/
def writeString (s : String) : List Char :=
  '"' :: s.toList.flatMap escaped ++ ['"']

/-- A scalar. -/
def writeScalar : Scalar → List Char
  | .text s => writeString s
  | .int n => (toString n).toList
  | .float x => (Decimal.Layout.json.text x).toList

/-! ## §2. Containers. -/

/-- The start of a line at a depth. -/
def lineStart (depth : Nat) : List Char :=
  '\n' :: List.replicate (2 * depth) ' '

/-- What stands before an item or an entry. -/
def separator (depth : Nat) (isFirst : Bool) : List Char :=
  if isFirst then lineStart depth else ',' :: lineStart depth

/-- What ends a container. -/
def closing (depth : Nat) (isEmpty : Bool) (bracket : Char) : List Char :=
  if isEmpty then [bracket] else lineStart depth ++ [bracket]

mutual

/-- A value that stands at a depth. -/
def write (depth : Nat) : Value → List Char
  | .null => "null".toList
  | .bool b => if b then "true".toList else "false".toList
  | .scalar s => writeScalar s
  | .list items | .tuple items =>
      '[' :: writeItems (depth + 1) true items ++ closing depth items.isEmpty ']'
  | .map entries =>
      '\x7b' :: writeEntries (depth + 1) true entries ++ closing depth entries.isEmpty '\x7d'

/-- Items at a depth; a comma goes before all but the first. -/
def writeItems (depth : Nat) (isFirst : Bool) : List Value → List Char
  | [] => []
  | item :: rest =>
      separator depth isFirst ++ write depth item ++ writeItems depth false rest

/-- Entries at a depth; a comma goes before all but the first. -/
def writeEntries (depth : Nat) (isFirst : Bool) : List (Value × Value) → List Char
  | [] => []
  | (key, value) :: rest =>
      separator depth isFirst ++ writeString key.printed ++ ':' :: ' ' :: write depth value ++
        writeEntries depth false rest

end

/-- **The document of a value.** -/
def document (value : Value) : List Char :=
  write 0 value

end Stylesheet.Json
