/-
  Stylesheet.Value
  ────────────────
  **VALUES: WHAT A STYLE TREE IS MADE OF.**

  A tree comes from a document of which nothing is known beforehand, so any
  value may stand anywhere: it is the work of the normaliser to find the
  entry that does not fit.  A mapping is kept as its list of entries; how
  entries get into it is the matter of `Stylesheet.Value.Mapping`.

  Main statement: `beq_iff_eq`, the comparison decides equality.
-/
import Stylesheet.Table
import Stylesheet.Text.Half

namespace Stylesheet

/-! ## §1. The types. -/

/-- A value that can be printed behind a property name. -/
inductive Scalar where
  /-- Text. -/
  | text (s : String)
  /-- An integer of any size. -/
  | int (n : Int)
  /-- A double. -/
  | float (x : Float)
  deriving DecidableEq

/-- A value of a style tree, well placed or not. -/
inductive Value where
  /-- The absent value. -/
  | null
  /-- A truth value, which is no scalar. -/
  | bool (b : Bool)
  /-- A scalar. -/
  | scalar (s : Scalar)
  /-- A list. -/
  | list (items : List Value)
  /-- A tuple, which stands for a list wherever a list may stand. -/
  | tuple (items : List Value)
  /-- A mapping, as its entries in order. -/
  | map (entries : List (Value × Value))
  deriving Inhabited

namespace Value

/-- A text value. -/
def text (s : String) : Value := .scalar (.text s)

instance : Coe String Value := ⟨text⟩

/-! ## §2. Views. -/

/-- The text that a value is. -/
def text? : Value → Option String
  | .scalar (.text s) => some s
  | _ => none

/-- The scalar that a value is. -/
def scalar? : Value → Option Scalar
  | .scalar s => some s
  | _ => none

/-- The scalars of a list of values, if all are scalars. -/
def scalars? (items : List Value) : Option (List Scalar) :=
  items.mapM scalar?

/-- The entries of a mapping. -/
def entries? : Value → Option (List (Value × Value))
  | .map entries => some entries
  | _ => none

/-- What a walk over a value visits: the items of a list, the keys of a
mapping, the characters of a text. -/
def members : Value → List Value
  | .list items | .tuple items => items
  | .map entries => entries.map Prod.fst
  | .scalar (.text s) => (Text.points s.toList).map fun point => text (String.ofList point.coded)
  | _ => []

/-- The name of a value's type, as messages give it. -/
def typeName : Value → String
  | .null => "NoneType"
  | .bool _ => "bool"
  | .scalar (.text _) => "str"
  | .scalar (.int _) => "int"
  | .scalar (.float _) => "float"
  | .list _ => "list"
  | .tuple _ => "tuple"
  | .map _ => "dict"

/-! ## §3. Equality. -/

mutual

/-- Whether two values are the same. -/
def beq : Value → Value → Bool
  | .null, .null => true
  | .bool a, .bool b => a == b
  | .scalar a, .scalar b => decide (a = b)
  | .list a, .list b => beqItems a b
  | .tuple a, .tuple b => beqItems a b
  | .map a, .map b => beqEntries a b
  | _, _ => false

/-- Whether two lists of values are the same. -/
def beqItems : List Value → List Value → Bool
  | [], [] => true
  | a :: as, b :: bs => beq a b && beqItems as bs
  | _, _ => false

/-- Whether two lists of entries are the same. -/
def beqEntries : List (Value × Value) → List (Value × Value) → Bool
  | [], [] => true
  | (k, a) :: as, (l, b) :: bs => beq k l && beq a b && beqEntries as bs
  | _, _ => false

end

mutual

/-- **The comparison decides equality.** -/
theorem beq_iff_eq : ∀ a b : Value, beq a b = true ↔ a = b
  | .null, b => by cases b <;> simp [beq]
  | .bool _, b => by cases b <;> simp [beq]
  | .scalar _, b => by cases b <;> simp [beq]
  | .list as, b => by cases b <;> simp [beq, beqItems_iff_eq as]
  | .tuple as, b => by cases b <;> simp [beq, beqItems_iff_eq as]
  | .map as, b => by cases b <;> simp [beq, beqEntries_iff_eq as]

theorem beqItems_iff_eq : ∀ as bs : List Value, beqItems as bs = true ↔ as = bs
  | [], bs => by cases bs <;> simp [beqItems]
  | a :: as, bs => by
    cases bs with
    | nil => simp [beqItems]
    | cons b bs => simp [beqItems, beq_iff_eq a b, beqItems_iff_eq as bs]

theorem beqEntries_iff_eq : ∀ as bs : List (Value × Value), beqEntries as bs = true ↔ as = bs
  | [], bs => by cases bs <;> simp [beqEntries]
  | (k, a) :: as, bs => by
    cases bs with
    | nil => simp [beqEntries]
    | cons e bs =>
      obtain ⟨l, b⟩ := e
      simp [beqEntries, beq_iff_eq k l, beq_iff_eq a b, beqEntries_iff_eq as bs, and_assoc]

end

instance : DecidableEq Value := fun a b => decidable_of_iff _ (beq_iff_eq a b)

/-! ## §4. Mappings with texts as keys. -/

/-- The mapping that a table with texts as keys is. -/
def ofTextTable (t : Table String Value) : Value :=
  .map (t.entries.map fun e => (text e.1, e.2))

end Value

end Stylesheet
