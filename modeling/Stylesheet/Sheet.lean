/-
  Stylesheet.Sheet
  ────────────────
  **SHEETS: STYLES WITHOUT NESTING.**

  A sheet is an ordered table.  A selector has declarations, a grouping
  rule has selectors with declarations, a flat rule has declarations or a
  single value.  Declarations are an ordered table of scalars: a property
  with several values has one entry for each, told apart by ordinal
  markers.

  Main statement: `keys_set_single`, a single value keeps the place of its
  property.
-/
import Stylesheet.Property
import Stylesheet.Value

namespace Stylesheet

/-! ## §1. Declarations. -/

/-- Property names with their values, in order. -/
abbrev Declarations := Table String Scalar

/-- What a property is set to. -/
inductive PropertyValue where
  /-- One value. -/
  | single (value : Scalar)
  /-- Several values, printed as one declaration each. -/
  | repeated (values : List Scalar)
  deriving DecidableEq

namespace Declarations

/-- Whether a name is that of one of several values of a property. -/
def isNumberedOf (name other : String) : Bool :=
  other ≠ name && Property.withoutMarker other = name

/-- Set a property.  A single value takes the place of the present one;
several values take away all earlier ones of their property that have a
marker, and nothing else. -/
def set (declarations : Declarations) (name : String) : PropertyValue → Declarations
  | .single value => declarations.insert name value
  | .repeated values =>
      (declarations.filterKeys fun other => !isNumberedOf name other).insertAll
        (Property.numberAll name values)

/-- **A single value keeps the place of its property.** -/
theorem keys_set_single (declarations : Declarations) (name : String) (value : Scalar) :
    (set declarations name (.single value)).keys =
      if name ∈ declarations.keys then declarations.keys else declarations.keys ++ [name] :=
  Table.keys_write declarations name _

/-- The declarations that a mapping from names to values stands for, set one
after the other. -/
def ofList (entries : List (String × PropertyValue)) : Declarations :=
  entries.foldl (fun d e => set d e.1 e.2) ∅

end Declarations

/-! ## §2. Sheets. -/

/-- What stands behind a top-level key of a sheet. -/
inductive Item where
  /-- A single value, of a flat rule. -/
  | statement (value : Scalar)
  /-- Declarations, of a selector or a flat rule. -/
  | block (declarations : Declarations)
  /-- Selectors with declarations, of a grouping rule. -/
  | group (rules : Table String Declarations)
  deriving DecidableEq

namespace Item

/-- The declarations of an item, none if it is no block. -/
def declarations : Item → Declarations
  | .block declarations => declarations
  | _ => ∅

/-- The rules of an item, none if it is no group. -/
def rules : Item → Table String Declarations
  | .group rules => rules
  | _ => ∅

end Item

/-- Selectors, grouping rules and flat rules, in order. -/
abbrev Sheet := Table String Item

/-! ## §3. Sheets as values. -/

/-- Declarations as a mapping. -/
def Declarations.toValue (declarations : Declarations) : Value :=
  .ofTextTable (declarations.mapValues .scalar)

/-- An item as a value. -/
def Item.toValue : Item → Value
  | .statement value => .scalar value
  | .block declarations => declarations.toValue
  | .group rules => .ofTextTable (rules.mapValues Declarations.toValue)

/-- A sheet as a mapping. -/
def Sheet.toValue (sheet : Sheet) : Value :=
  .ofTextTable (sheet.mapValues Item.toValue)

end Stylesheet
