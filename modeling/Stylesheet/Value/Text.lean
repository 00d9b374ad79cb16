/-
  Stylesheet.Value.Text
  ─────────────────────
  **THE TEXT OF VALUES.**

  A value has two texts.  The *printed* one stands in a sheet, where text
  is itself; the *shown* one stands in messages and inside containers, where
  text is in quotes.  Everything but text reads the same in both.

  Not every value has them: an integer with too many digits is not written
  out, neither alone nor inside a container.  Whoever writes a value has to
  ask `isWritable` first.
-/
import Stylesheet.Decimal.Layout
import Stylesheet.Text.Integer
import Stylesheet.Text.Quoted
import Stylesheet.Value

namespace Stylesheet

/-! ## §1. The two texts. -/

/-- A scalar as a sheet has it. -/
def Scalar.printed : Scalar → String
  | .text s => s
  | .int n => toString n
  | .float x => Decimal.Layout.plain.text x

/-- A scalar as messages show it. -/
def Scalar.shown : Scalar → String
  | .text s => Text.quote s
  | s => s.printed

namespace Value

/-- Texts with commas between them. -/
def commaSeparated (texts : List String) : String :=
  String.intercalate ", " texts

mutual

/-- A value as messages show it. -/
def shown : Value → String
  | .null => "None"
  | .bool b => if b then "True" else "False"
  | .scalar s => s.shown
  | .list items => "[" ++ commaSeparated (shownItems items) ++ "]"
  | .tuple [item] => "(" ++ item.shown ++ ",)"
  | .tuple items => "(" ++ commaSeparated (shownItems items) ++ ")"
  | .map entries => "\x7b" ++ commaSeparated (shownEntries entries) ++ "\x7d"

/-- The items of a list as messages show them. -/
def shownItems : List Value → List String
  | [] => []
  | v :: rest => v.shown :: shownItems rest

/-- The entries of a mapping as messages show them. -/
def shownEntries : List (Value × Value) → List String
  | [] => []
  | (k, v) :: rest => (k.shown ++ ": " ++ v.shown) :: shownEntries rest

end

/-- A value as a sheet has it. -/
def printed : Value → String
  | .scalar s => s.printed
  | v => v.shown

end Value

/-! ## §2. Values that can be written. -/

/-- Whether a scalar can be written. -/
def Scalar.isWritable : Scalar → Bool
  | .int n => (Nat.toDigits 10 n.natAbs).length ≤ maxDigits
  | _ => true

/-- An integer can be written if it is small enough. -/
theorem Scalar.isWritable_int_iff (n : Int) :
    (Scalar.int n).isWritable = true ↔ n.natAbs < Nat.pow 10 maxDigits := by
  have count : ∀ m, 0 < m → ((Nat.toDigits 10 n.natAbs).length ≤ m ↔ n.natAbs < Nat.pow 10 m) :=
    fun _ positive => Nat.length_toDigits_le_iff (by decide) positive
  rw [isWritable, decide_eq_true_iff]
  exact count maxDigits (by decide)

namespace Value

mutual

/-- Whether a value can be written: none of its integers has too many
digits. -/
def isWritable : Value → Bool
  | .scalar s => s.isWritable
  | .list items | .tuple items => areWritable items
  | .map entries => haveWritable entries
  | _ => true

/-- Whether all items of a list can be written. -/
def areWritable : List Value → Bool
  | [] => true
  | v :: rest => v.isWritable && areWritable rest

/-- Whether the keys and values of all entries can be written. -/
def haveWritable : List (Value × Value) → Bool
  | [] => true
  | (k, v) :: rest => k.isWritable && v.isWritable && haveWritable rest

end

theorem areWritable_iff (items : List Value) :
    areWritable items = true ↔ ∀ v ∈ items, v.isWritable = true := by
  induction items with
  | nil => simp [areWritable]
  | cons v rest ih => simp [areWritable, ih]

theorem haveWritable_iff (entries : List (Value × Value)) :
    haveWritable entries = true
      ↔ ∀ e ∈ entries, e.1.isWritable = true ∧ e.2.isWritable = true := by
  induction entries with
  | nil => simp [haveWritable]
  | cons e rest ih => simp [haveWritable, ih, and_assoc]

@[simp]
theorem printed_text (s : String) : (text s).printed = s := rfl

@[simp]
theorem isWritable_text (s : String) : (text s).isWritable = true := rfl

end Value

end Stylesheet
