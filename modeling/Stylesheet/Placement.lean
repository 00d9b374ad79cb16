/-
  Stylesheet.Placement
  ────────────────────
  **PLACEMENTS: ONE LEAF OF A TREE IN ITS SHEET.**

  Every leaf of a style tree says one thing about the sheet: a declaration
  below a selector, maybe under a condition, or a flat rule.  A sheet is
  what its placements leave when they are made one after the other.
-/
import Stylesheet.Sheet

namespace Stylesheet

/-- What a leaf of a style tree contributes to a sheet. -/
inductive Placement where
  /-- A flat rule with its value. -/
  | flatRule (key : String) (item : Item)
  /-- A property below a selector, under a condition or under none. -/
  | declaration (condition : Option String) (selector name : String) (value : PropertyValue)
  deriving DecidableEq

namespace Sheet

/-- Make a placement. -/
def place (sheet : Sheet) : Placement → Sheet
  | .flatRule key item => sheet.insert key item
  | .declaration none selector name value =>
      sheet.write selector fun item? =>
        .block (Declarations.set (item?.elim ∅ Item.declarations) name value)
  | .declaration (some condition) selector name value =>
      sheet.write condition fun item? =>
        .group ((item?.elim ∅ Item.rules).write selector fun declarations? =>
          Declarations.set (declarations?.getD ∅) name value)

/-- The sheet that placements leave, made in their order. -/
def ofPlacements (placements : List Placement) : Sheet :=
  placements.foldl place ∅

end Sheet

end Stylesheet
