/-
  Stylesheet.Session
  ──────────────────
  **BUILDING A TREE STEP BY STEP.**

  A session holds one tree, empty at first.  A step changes the tree or
  prints it; a step that fails leaves the tree as it was.
-/
import Stylesheet.Layout
import Stylesheet.Lightness
import Stylesheet.Overlay

namespace Stylesheet.Session

/-! ## §1. Steps. -/

/-- What can be done with the tree of a session. -/
inductive Step where
  /-- Merge mappings over the tree. -/
  | overlay (candidates : List Value)
  /-- Merge the tree over mappings. -/
  | underlay (candidates : List Value)
  /-- Add a property for each vendor. -/
  | vendors (property : String) (value vendors : Value)
  /-- Add a property with several values. -/
  | numbered (property : String) (values : Value)
  /-- Add a property whose value is a colour made lighter or darker. -/
  | light (property colour : String) (factor : Factor)
  /-- Put the tree below a key. -/
  | nest (key : String)
  /-- Flatten the tree. -/
  | flatten
  /-- Print the tree as a sheet. -/
  | printSheet (layout : SheetLayout)
  /-- Flatten and print the tree. -/
  | printTree (layout : SheetLayout)

/-- Why a step fails. -/
inductive Failure where
  /-- Something is wrong with the tree. -/
  | style (error : LocatedFault)
  /-- A colour cannot be changed. -/
  | lightness (error : LightnessError)

/-! ## §2. Running. -/

/-- The tree with mappings merged over it. -/
def overlaid (tree : Value) (candidates : List Value) : Value :=
  overlay (tree :: candidates)

/-- The tree after a step, and what the step shows. -/
def perform (tree : Value) : Step → Except Failure (Value × Value)
  | .overlay candidates => changed (overlaid tree candidates)
  | .underlay candidates => changed (overlay (candidates ++ [tree]))
  | .vendors property value vendors =>
      changed (overlaid tree [.ofTextTable (vendorFan property value (vendorsOf vendors))])
  | .numbered property values =>
      changed (overlaid tree [.ofTextTable (numberedEntries property values.members)])
  | .light property colour factor => do
      let light ← (scaleLightness colour factor).mapError .lightness
      changed (overlaid tree [.map [(.text property, .text light)]])
  | .nest key => changed (.map [(.text key, tree)])
  | .flatten => do
      changed (← (Stylesheet.flatten tree).result.mapError .style).toValue
  | .printSheet layout => printed (Stylesheet.printSheet tree layout)
  | .printTree layout => printed (Stylesheet.printTree tree layout)
where
  /-- A step that changes the tree shows the new one. -/
  changed (tree : Value) : Except Failure (Value × Value) := .ok (tree, tree)
  /-- A step that prints the tree shows the text. -/
  printed (text : Traced String) : Except Failure (Value × Value) := do
    return (tree, .text (← text.result.mapError .style))

/-- What the steps show, one after the other, when the first finds the given
tree. -/
def runFrom (tree : Value) : List Step → List (Except Failure Value)
  | [] => []
  | step :: rest =>
      match perform tree step with
      | .ok (tree, shown) => .ok shown :: runFrom tree rest
      | .error e => .error e :: runFrom tree rest

/-- What the steps of a session show. -/
def run (steps : List Step) : List (Except Failure Value) :=
  runFrom (.map []) steps

end Stylesheet.Session
