/-
  Stylesheet.Overlay
  ──────────────────
  **PUTTING TREES TOGETHER.**

  Helpers that build mappings to be used as trees or parts of trees: a
  shallow merge, the fan-out of a property over vendors, and the entries of
  a property with several values.
-/
import Stylesheet.Property
import Stylesheet.Text.Casing
import Stylesheet.Value.Mapping

namespace Stylesheet

/-! ## §1. Merging. -/

/-- Add a candidate to the entries of a mapping, if it is a mapping itself:
its values replace those of the keys that are present. -/
def layOver (entries : List (Value × Value)) (candidate : Value) : List (Value × Value) :=
  match candidate with
  | .map more => Value.setEntries entries more
  | _ => entries

/-- The merge of all candidates that are mappings, from left to right. -/
def overlay (candidates : List Value) : Value :=
  .map (candidates.foldl layOver [])

/-! ## §2. Vendors. -/

/-- The vendors that a property is fanned out over when none are named. -/
def usualVendors : List String := ["webkit", "moz", "ms", "o"]

/-- The key of a property for one vendor: both names with a capital. -/
def vendorKey (vendor property : String) : String :=
  String.ofList (Text.capitalize vendor.toList ++ Text.capitalize property.toList)

/-- One entry for each vendor, all with the same value. -/
def vendorFan (property : String) (value : Value) (vendors : List String) :
    Table String Value :=
  .ofList (vendors.map fun vendor => (vendorKey vendor property, value))

/-- The vendors that a value names; the absent value stands for the usual
ones. -/
def vendorsOf : Value → List String
  | .null => usualVendors
  | value => value.members.filterMap Value.text?

/-! ## §3. Several values. -/

/-- One entry for each value, named by its index. -/
def numberedEntries (property : String) (values : List Value) : Table String Value :=
  .ofList (Property.numberAll property values)

end Stylesheet
