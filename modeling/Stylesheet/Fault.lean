/-
  Stylesheet.Fault
  ────────────────
  **WHAT CAN BE WRONG WITH A TREE OR A SHEET, AND WHERE.**

  A fault is a cause with its data.  Its family and its wording are stated
  here once.  A fault has a place, the keys from the root down to it, when
  it is found on the way through a tree.

  One fault is none of a style: an integer with too many digits cannot be
  written, wherever its text is needed, and that has neither a style to
  blame nor a place.
-/
import Stylesheet.Condition
import Stylesheet.Value.Text

namespace Stylesheet

/-! ## §1. Reports. -/

/-- The families that faults fall into. -/
inductive Family where
  /-- Any fault of a style. -/
  | general
  /-- A value of the wrong type where a mapping or a scalar is needed. -/
  | wrongType
  /-- An at-rule whose value has not the shape that its name calls for. -/
  | ruleShape
  /-- A nesting that no sheet can express. -/
  | nesting
  /-- A number that cannot be written, which is no fault of the style. -/
  | number
  deriving Repr, DecidableEq

/-- A fault as it is told. -/
structure Report where
  /-- The family of the fault. -/
  family : Family
  /-- The wording, without the place. -/
  message : String
  /-- The keys that lead from the root to the place, if it has one. -/
  path : Option (List String)
  deriving Repr, DecidableEq

/-- The full text of a report: the wording and, below the root, the place. -/
def Report.text (report : Report) : String :=
  match report.path with
  | none | some [] => report.message
  | some path => report.message ++ " (at " ++ String.intercalate " > " path ++ ")"

/-! ## §2. Faults. -/

/-- What is wrong. -/
inductive Fault where
  /-- The tree is no mapping. -/
  | treeNotMapping (tree : Value)
  /-- The sheet is no mapping. -/
  | sheetNotMapping (sheet : Value)
  /-- A key is no text. -/
  | keyNotText (key : Value)
  /-- A grouping rule has no block. -/
  | groupNotBlock (key : String) (value : Value)
  /-- A grouping rule cannot be merged with the one around it. -/
  | unmergeable (error : Condition.MergeError)
  /-- A flat rule stands below the top level. -/
  | nestedFlatRule (key : String)
  /-- A rule that takes a single value has another. -/
  | notSingleValue (key : String) (value : Value)
  /-- A rule that takes declarations has none. -/
  | notDeclarationBlock (key : String) (value : Value)
  /-- A declaration of a flat rule has no name or no printable value. -/
  | flatDeclaration (key : String)
  /-- A property stands outside every selector. -/
  | looseProperty (key : String)
  /-- A value among several of a property is no scalar. -/
  | repeatedValue (key : String)
  /-- The value of a property is neither a scalar nor several. -/
  | propertyValue (key : String) (value : Value)
  /-- A selector of a sheet has no declarations. -/
  | selectorNotBlock (key : String) (value : Value)
  /-- A selector below a grouping rule of a sheet has no declarations. -/
  | groupedSelector (key : String)
  /-- An integer has too many digits to be written. -/
  | tooManyDigits
  deriving DecidableEq

namespace Fault

/-- The family of a fault. -/
def family : Fault → Family
  | treeNotMapping _ | sheetNotMapping _ | keyNotText _ | repeatedValue _
  | propertyValue .. | selectorNotBlock .. => .wrongType
  | groupNotBlock .. | notSingleValue .. | notDeclarationBlock .. | flatDeclaration _
  | groupedSelector _ => .ruleShape
  | unmergeable _ | nestedFlatRule _ | looseProperty _ => .nesting
  | tooManyDigits => .number

/-- The wording of a fault. -/
def message : Fault → String
  | treeNotMapping tree => "Style tree must be a mapping, got " ++ tree.typeName
  | sheetNotMapping sheet => "Flattened styles must be a mapping, got " ++ sheet.typeName
  | keyNotText key => "Style keys must be strings, got " ++ key.shown
  | groupNotBlock key value => key ++ " expects a nested style block, got " ++ value.typeName
  | unmergeable error => error.message
  | nestedFlatRule key => key ++ " is only supported at the top level of a style tree"
  | notSingleValue key value => key ++ " expects a single value, got " ++ value.typeName
  | notDeclarationBlock key value =>
      key ++ " expects a declaration block, got " ++ value.typeName
  | flatDeclaration key => key ++ " declarations must map property names to values"
  | looseProperty key => "Property " ++ Text.quote key ++ " has no enclosing selector"
  | repeatedValue key =>
      "Values of repeated property " ++ Text.quote key ++ " must be strings or numbers"
  | propertyValue key value =>
      "Invalid value for property " ++ Text.quote key ++ ": " ++ value.typeName
  | selectorNotBlock key value =>
      "Selector " ++ Text.quote key ++ " must map to declarations, got " ++ value.typeName
  | groupedSelector key => key ++ " must map selectors to declarations"
  | tooManyDigits => Text.tooManyDigits ""

end Fault

/-! ## §3. Faults with a place. -/

/-- A fault and its place. -/
structure LocatedFault where
  /-- What is wrong. -/
  fault : Fault
  /-- The keys that lead from the root to the place, if it has one. -/
  path : Option (List String)
  deriving DecidableEq

/-- The report of a fault at its place. -/
def LocatedFault.report (error : LocatedFault) : Report where
  family := error.fault.family
  message := error.fault.message
  path := error.path

end Stylesheet
