/-
  Stylesheet.Layout
  ─────────────────
  **PRINTING A SHEET.**

  A sheet is printed entry by entry, every line with its indentation in
  front; the layout says what a step of indentation and the end of a line
  look like.  Any mapping can be given as a sheet, so printing can fail: an
  entry may have the wrong shape, or an integer too many digits.

  Keys of entries and names of declarations are texts.  What is no text in
  their place has no meaning here, and stands as it would be written;
  selectors below a grouping rule may be anything that can be written.
-/
import Stylesheet.Flatten

namespace Stylesheet

/-! ## §1. Layouts. -/

/-- What the layout of a sheet looks like. -/
structure SheetLayout where
  /-- A step of indentation. -/
  indent : String := "  "
  /-- The end of a line. -/
  newline : String := "\n"
  deriving Repr, DecidableEq

namespace SheetLayout

/-- The layout with so many spaces to a step; there are none when the width
is not positive. -/
def spaces (width : Int) : SheetLayout :=
  { indent := String.ofList (List.replicate width.toNat ' ') }

variable (layout : SheetLayout)

/-- What stands before a line inside so many blocks. -/
def pad (depth : Nat) : String :=
  String.join (List.replicate depth layout.indent)

/-! ## §2. Blocks. -/

/-- The line of a declaration.  A name is brought into its canonical form and
loses its marker. -/
def printDeclaration (depth : Nat) (name value : Value) : Traced String := do
  let name := Property.withoutMarker (Property.ofKey name.printed)
  return layout.pad depth ++ name ++ ": " ++ (← .print value) ++ ";"

/-- The lines of a block of declarations: its head, one line for each
declaration, and its end. -/
def printBlock (depth : Nat) (head : Value) (declarations : List (Value × Value)) :
    Traced (List String) := do
  let opening := layout.pad depth ++ (← .print head) ++ " \x7b"
  let inner ← declarations.mapM fun (name, value) => layout.printDeclaration (depth + 1) name value
  return opening :: inner ++ [layout.pad depth ++ "\x7d"]

/-- The lines of a selector below a grouping rule. -/
def printGrouped (key : String) (selector value : Value) : Traced (List String) :=
  match value with
  | .map declarations => layout.printBlock 1 selector declarations
  | _ => do .fail (some [key, ← .print selector]) (.groupedSelector key)

/-! ## §3. Sheets. -/

/-- The lines of a top-level entry.  A mapping holds selectors below a
grouping rule and declarations below all other keys. -/
def printEntry (key : String) (value : Value) : Traced (List String) :=
  match value with
  | .map entries => do
      match ← if AtRule.isKey key then ruleKind key else pure .block with
      | .group =>
          let rules ← entries.mapM fun (selector, value) => layout.printGrouped key selector value
          return (key ++ " \x7b") :: rules.flatten ++ ["\x7d"]
      | _ => layout.printBlock 0 (.text key) entries
  | value => do
      if AtRule.isKey key then return [key ++ " " ++ (← .print value) ++ ";"]
      else .fail (some [key]) (.selectorNotBlock key value)

end SheetLayout

/-- The text of a sheet that is given as a value: its lines with ends between
them and behind the last, or nothing at all. -/
def printSheet (sheet : Value) (layout : SheetLayout) : Traced String :=
  match sheet with
  | .map entries => do
      let lines ← entries.mapM fun (key, value) => layout.printEntry key.printed value
      if lines.flatten.isEmpty then return ""
      else return String.intercalate layout.newline lines.flatten ++ layout.newline
  | sheet => .fail none (.sheetNotMapping sheet)

/-- **The printed sheet of a tree.** -/
def printTree (tree : Value) (layout : SheetLayout) : Traced String := do
  printSheet (← flatten tree).toValue layout

end Stylesheet
